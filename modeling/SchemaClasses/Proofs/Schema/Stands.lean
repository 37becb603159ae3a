/-
Which schema node a definition stands for. A definition of a type set is what some node of the document was
lowered to, so that what it says can be read off the keywords of that node: whether it may be null, which
properties it has and which of them are required, and where a reference leads.
-/
import SchemaClasses.Proofs.Schema.WellFormed

namespace SchemaClasses.Schema

/-! ## Definitions and nodes -/

/-- The first of the definitions that a node of the document was lowered to, required or not. -/
def Stands (document json : Json) (d : TypeDef) : Prop :=
  Reachable document json ∧ ∃ table name base required, Sound document table ∧
    YieldsNode (Answer document table) name json base ∧ d = base.first.setRequired required

/-- One property of an object stands for its schema, and is required if its key is. -/
def StandsProperty (document : Json) (required : List String) (entry : String × Json) (out : String × TypeSet) : Prop :=
  out.1 = entry.1 ∧ Stands document entry.2 out.2.first ∧ out.2.first.isRequired = required.contains entry.1

variable {document json : Json} {d : TypeDef}

theorem setRequired_setRequired (d : TypeDef) (required required' : Bool) :
    (d.setRequired required).setRequired required' = d.setRequired required' := by
  cases d <;> rfl

theorem isRequired_setRequired (d : TypeDef) (required : Bool) : (d.setRequired required).isRequired = required := by
  cases d <;> rfl

theorem isNullable_setRequired (d : TypeDef) (required : Bool) :
    (d.setRequired required).isNullable = d.isNullable := by
  cases d <;> rfl

theorem setRequired_isRequired (d : TypeDef) : d.setRequired d.isRequired = d := by
  cases d <;> rfl

theorem Stands.of_yields {table : Table} {name pointer : String} {base : TypeSet} (reached : Reachable document json)
    (sound : Sound document table) (h : Lowering.Yields (Answer document table) (lowerNode json pointer name) base) :
    Stands document json base.first :=
  ⟨reached, table, name, base, base.first.isRequired, sound, yields_lowerNode h, (setRequired_isRequired _).symm⟩

theorem Stands.setRequired (h : Stands document json d) (required : Bool) :
    Stands document json (d.setRequired required) := by
  obtain ⟨reached, table, name, base, was, sound, yields, rfl⟩ := h
  exact ⟨reached, table, name, base, required, sound, yields, setRequired_setRequired ..⟩

/-- The top level of a document stands for the document. -/
theorem stands_of_parse {name : String} {set : TypeSet} (h : (parse document name).1 = .ok set) :
    Stands document document set.first := by
  obtain ⟨table, base, complete, yields, rfl⟩ := exists_table h
  exact (Stands.of_yields .top complete.sound (yields.mono fun _ _ ha => ha.1)).setRequired true

/-! ## What nodes say -/

theorem traits_of_yieldsKind {Q : String → Option TypeSet → Prop} {node : Node} {traits : Traits} {kind : String}
    (h : YieldsKind Q node traits kind d) : d.traits = traits := by
  cases h <;> rfl

/-- A definition has the namespace segments of its node, be it a reference or not. -/
theorem Stands.exists_segments (h : Stands document json d) :
    ∃ node, json = .object node ∧ d.traits.segments = segments? node := by
  obtain ⟨-, table, name, base, required, -, yields, rfl⟩ := h
  have same : (base.first.setRequired required).traits.segments = base.first.traits.segments := by
    cases base.first <;> rfl
  rw [same]
  cases yields with
  | @reference node target answer _ _ => exact ⟨node, rfl, rfl⟩
  | @kinds node kinds nullable base _ _ hk =>
    refine ⟨node, rfl, ?_⟩
    obtain ⟨first, others⟩ := base
    cases hk with
    | cons first _ => rw [traits_of_yieldsKind first]

theorem namesKinds_unique {node : Node} {kinds kinds' : List String} (h : NamesKinds node kinds)
    (h' : NamesKinds node kinds') : kinds = kinds' :=
  Except.ok.inj ((namedKinds_ok.2 h).symm.trans (namedKinds_ok.2 h'))

/-- A definition may be null if its node names null among its kinds; beside a reference no kinds are named. -/
theorem Stands.isNullable_iff (h : Stands document json d) :
    d.isNullable = true ↔ ∃ node, json = .object node ∧ HasKind node "null" := by
  obtain ⟨-, table, name, base, required, -, yields, rfl⟩ := h
  rw [isNullable_setRequired]
  cases yields with
  | @reference node target answer hl _ =>
    constructor
    · intro null
      cases null
    · rintro ⟨_, ⟨⟩, none, -⟩
      rw [none] at hl
      cases hl
  | @kinds node kinds nullable base hl hd hk =>
    obtain ⟨named, hn, -, rfl⟩ := declaredKinds_ok hd
    -- the first definition has the traits of the node
    obtain ⟨first, others⟩ := base
    have traits : first.isNullable = named.contains "null" := by
      cases hk with
      | cons first _ => rw [TypeDef.isNullable, traits_of_yieldsKind first]
    rw [traits, List.contains_iff_mem]
    constructor
    · exact fun null => ⟨node, rfl, hl, named, hn, null⟩
    · rintro ⟨_, ⟨⟩, -, named', hn', null⟩
      rwa [namesKinds_unique hn hn']

/-! ## Parts -/

/-- A definition that is no reference is what its node yields as one of its kinds. -/
theorem Stands.exists_kind (h : Stands document json d)
    (direct : ∀ traits pointer resolved, d ≠ .reference traits pointer resolved) :
    ∃ node table traits kind original required, json = .object node ∧ Sound document table ∧ HasKind node kind ∧
      YieldsKind (Answer document table) node traits kind original ∧ d = original.setRequired required := by
  obtain ⟨-, table, name, base, required, sound, yields, rfl⟩ := h
  cases yields with
  | reference _ _ => exact absurd rfl (direct _ _ _)
  | @kinds node kinds nullable base hl hd hk =>
    obtain ⟨named, hn, kept, -⟩ := declaredKinds_ok hd
    obtain ⟨first, others⟩ := base
    obtain ⟨kind, hm, hy⟩ := exists_left_of_forall₂ hk List.mem_cons_self
    rw [kept, List.mem_filter] at hm
    exact ⟨node, table, _, kind, first, required, rfl, sound, ⟨hl, named, hn, hm.1⟩, hy, rfl⟩

/-- The properties of an object stand for the schemas of its node. -/
theorem Stands.object {traits : Traits} {properties : List (String × TypeSet)}
    (h : Stands document json (.object traits properties)) : ∃ node required schemas, json = .object node ∧
      HasKind node "object" ∧ requiredKeys node = .ok required ∧ propertySchemas? node = some schemas ∧
      List.Forall₂ (StandsProperty document required) schemas properties := by
  obtain ⟨node, table, traits', kind, original, was, rfl, sound, hk, hy, same⟩ := h.exists_kind nofun
  cases hy with
  | @object required schemas out hr hp each =>
    cases same
    have reached : ∀ entry ∈ schemas, Reachable document entry.2 := fun entry he =>
      h.1.property hk (lookup_of_propertySchemas hp he) he
    have standing := ((List.forall₂_and_left _ _).2 ⟨reached, each⟩).imp fun entry out both => by
      obtain ⟨reached, name, pointer, set, yields, hs⟩ := both
      have stands := (Stands.of_yields reached sound yields).setRequired (required.contains entry.1)
      refine (⟨name, ?_, ?_⟩ : StandsProperty document required entry out)
      · rw [hs]
        exact stands
      · rw [hs]
        exact isRequired_setRequired ..
    exact ⟨node, required, schemas, rfl, hk, hr, hp, standing⟩
  | _ => cases same

/-- The items of an array stand for nodes of the document. -/
theorem Stands.array {traits : Traits} {items : List TypeSet} (h : Stands document json (.array traits items))
    {inner : TypeSet} (hm : inner ∈ items) : ∃ schema, Stands document schema inner.first := by
  obtain ⟨node, table, traits', kind, original, was, rfl, sound, hk, hy, same⟩ := h.exists_kind nofun
  cases hy with
  | array hi each =>
    cases same
    obtain ⟨schema, hs, pointer, yields⟩ := exists_left_of_forall₂ each hm
    obtain ⟨_, part⟩ := exists_part_of_itemSchemas hi hs
    exact ⟨schema, .of_yields (h.1.part hk part) sound yields⟩
  | _ => cases same

/-- What a reference was resolved to stands for the node that its text leads to. -/
theorem Stands.reference {traits : Traits} {pointer : String} {inner : TypeSet}
    (h : Stands document json (.reference traits pointer (some inner))) : ∃ node text part, json = .object node ∧
      node.lookup "$ref" = some (.string ("#" ++ text)) ∧ document.select? text = some part ∧
      Stands document part inner.first := by
  obtain ⟨reached, table, name, base, was, sound, yields, same⟩ := h
  cases yields with
  | @reference node target answer hl ha =>
    cases same
    rcases ha with known | ⟨none, -⟩
    · obtain ⟨below, s, -, sound, found, yields⟩ := sound.exists_below known
      obtain ⟨text, part, hp, selected, rfl⟩ := targetLowering?_eq_some.1 found
      obtain rfl := localPointer?_eq_some.1 hp
      exact ⟨node, text, part, rfl, hl, selected, .of_yields (reached.target hl selected) sound yields⟩
    · cases none
  | @kinds node kinds nullable base hl hd hk =>
    obtain ⟨first, others⟩ := base
    obtain ⟨kind, -, hy⟩ := exists_left_of_forall₂ hk List.mem_cons_self
    cases hy <;> cases same

end SchemaClasses.Schema
