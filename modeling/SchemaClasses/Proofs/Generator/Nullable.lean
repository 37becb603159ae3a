/-
When the hint of a property begins with a question mark: when its key is not required, or when its own schema
names null among its kinds. A reference names no kinds, whatever it leads to does.
-/
import SchemaClasses.Proofs.Class.Hints
import SchemaClasses.Proofs.Class.Properties
import SchemaClasses.Proofs.Generator.Origin
import SchemaClasses.Proofs.Schema.Stands

namespace SchemaClasses

open Schema

/-! ## Kinds behind references -/

/-- A schema names a kind, itself or at the end of the references that it leads to. -/
inductive LeadsToKind (document : Json) (kind : String) : Json → Prop
  | here {node : Node} : HasKind node kind → LeadsToKind document kind (.object node)
  | behind {node : Node} {pointer : String} {part : Json} : node.lookup "$ref" = some (.string ("#" ++ pointer)) →
      document.select? pointer = some part → LeadsToKind document kind part →
      LeadsToKind document kind (.object node)

/-- A schema that is a reference. -/
def IsReference (schema : Json) : Prop := ∃ node target, schema = .object node ∧ node.lookup "$ref" = some (.string target)

/-- A schema that names a kind itself. -/
def NamesKind (schema : Json) (kind : String) : Prop := ∃ node, schema = .object node ∧ HasKind node kind

variable {document schema : Json} {kind : String}

theorem not_isReference_of_namesKind (h : NamesKind schema kind) : ¬ IsReference schema := by
  obtain ⟨node, rfl, none, -⟩ := h
  rintro ⟨_, target, ⟨⟩, hl⟩
  rw [none] at hl
  cases hl

/-- Without a reference a schema leads to the kinds that it names. -/
theorem leadsToKind_iff (direct : ¬ IsReference schema) : LeadsToKind document kind schema ↔ NamesKind schema kind := by
  constructor
  · intro h
    cases h with
    | @here node hk => exact ⟨node, rfl, hk⟩
    | @behind node pointer part hl _ _ => exact absurd ⟨node, _, rfl, hl⟩ direct
  · rintro ⟨node, rfl, hk⟩
    exact .here hk

/-! ## What is built stands for something -/

theorem Schema.Stands.standsFor {json : Json} {set : TypeSet} {d : TypeDef} (h : Stands document json set.first)
    (hd : standsFor? set = some d) : ∃ json, Stands document json d := by
  obtain ⟨first, others⟩ := set
  unfold standsFor? at hd
  split at hd
  · cases hd
  · rename_i traits pointer inner hf
    rw [hf] at h
    obtain ⟨-, -, part, -, -, -, h⟩ := h.reference
    split at hd
    · cases hd
    · cases hd
      exact ⟨part, h⟩
  · cases hd
    exact ⟨json, h⟩

theorem Schema.Stands.walked {json : Json} {d : TypeDef} (h : Stands document json d) :
    ∃ json, Stands document json (SchemaClasses.walked d).first := by
  unfold SchemaClasses.walked
  split
  · obtain ⟨-, -, part, -, -, -, h⟩ := h.reference
    exact ⟨part, h⟩
  · exact ⟨json, h⟩

/-- Every definition that classes are built for stands for a node of the document. -/
theorem Builds.stands {set : TypeSet} {d : TypeDef} (h : Builds set d) :
    (∃ json, Stands document json set.first) → ∃ json, Stands document json d := by
  induction h with
  | here hd => exact fun ⟨_, stands⟩ => stands.standsFor hd
  | property hd he _ ih =>
    rintro ⟨_, stands⟩
    obtain ⟨_, object⟩ := stands.standsFor hd
    obtain ⟨node, required, schemas, -, -, -, -, each⟩ := object.object
    obtain ⟨entry, -, -, property, -⟩ := exists_left_of_forall₂ each he
    exact ih property.walked
  | item hd _ ih =>
    rintro ⟨_, stands⟩
    obtain ⟨_, array⟩ := stands.standsFor hd
    exact ih (array.array List.mem_cons_self)

/-! ## Hints -/

section Hints

variable {v : ValueObjects} {ambient : String}

theorem isNullable_schemaProperty (plain : PlainNames v.filters) (entry : String × TypeSet) :
    (schemaProperty v ambient entry).isNullable = (!entry.2.first.isRequired || entry.2.first.isNullable) := by
  obtain ⟨space, raw, -, he⟩ := promisedName_eq v ambient entry.1 entry.2.first
  have short : shortName (promisedName v ambient entry.1 entry.2.first) = v.filters.className raw := by
    rw [he, shortName_qualify (plain.short raw)]
  unfold Property.isNullable schemaProperty propertyTypeHint
  simp only
  rw [short]
  split
  · rename_i nullable
    rw [nullable, String.toList_append]
    rfl
  · rename_i nullable
    rw [Bool.not_eq_true] at nullable
    rw [nullable, beq_eq_false_iff_ne]
    exact fun hh => plain.unmarked raw (List.mem_of_mem_head? hh)

/-- The last of the entries whose keys are filtered to a name. -/
def lastUnder? (filter : String → String) (schemas : Node) (name : String) : Option (String × Json) :=
  schemas.reverse.find? (filter ·.1 == name)

/-- What the hint of a property of a key says about null: the property may be null if the key is not required or
its schema names null, which is as much as to say that what its schema leads to names null, save for required
references to such schemas. -/
structure HintFits (document : Json) (required : List String) (key : String) (schema : Json) (p : Property) : Prop where
  raw : p.rawKey = key
  exact : p.isNullable = true ↔ key ∉ required ∨ NamesKind schema "null"
  behind : (p.isNullable = true ↔ key ∉ required ∨ LeadsToKind document "null" schema) ↔
    ¬ (key ∈ required ∧ IsReference schema ∧ LeadsToKind document "null" schema)

theorem hintFits_of_exact {required : List String} {key : String} {p : Property} (hk : p.rawKey = key)
    (exact : p.isNullable = true ↔ key ∉ required ∨ NamesKind schema "null") :
    HintFits document required key schema p := by
  refine ⟨hk, exact, ?_⟩
  rw [exact]
  by_cases direct : IsReference schema
  · have none : ¬ NamesKind schema "null" := fun hn => not_isReference_of_namesKind hn direct
    by_cases needed : key ∈ required
    · simp [none, direct, needed]
    · simp [needed]
  · simp [leadsToKind_iff direct, direct]

/-- The property of the last key under a name has the hint that goes with the schema of the key. -/
theorem hintFits_of_stands (plain : PlainNames v.filters) {required : List String} {schemas : Node}
    {properties : List (String × TypeSet)} (each : List.Forall₂ (StandsProperty document required) schemas properties)
    {name key : String} (last : lastUnder? v.filters.propertyName schemas name = some (key, schema)) :
    ∃ p, (schemaProperties v ambient properties).at? name = some p ∧ HintFits document required key schema p := by
  have together : ∀ (entry : String × Json) (out : String × TypeSet), StandsProperty document required entry out →
      (v.filters.propertyName entry.1 == name) = (v.filters.propertyName out.1 == name) := by
    intro entry out property
    rw [property.1]
  obtain ⟨⟨key', set⟩, found, rfl, stands, needed⟩ :=
    find?_of_forall₂ (List.forall₂_reverse_iff.2 each) together last
  refine ⟨schemaProperty v ambient (key', set), ?_, hintFits_of_exact rfl ?_⟩
  · rw [at?_schemaProperties, found]
    rfl
  · rw [isNullable_schemaProperty plain, Bool.or_eq_true, stands.isNullable_iff, needed, Bool.not_eq_true',
      Bool.eq_false_iff, ne_eq, List.contains_iff_mem]
    rfl

/-! ## Results -/

/-- An entity that was built has the properties of an object that classes are built for. -/
theorem Originates.entity {built : TypeDef → Prop} {c : Collection} {fqcn : String} {m : ClassModel}
    (h : Originates v ambient built c) (hf : c.get? fqcn = some m) (hk : m.kind = .entity) :
    ∃ traits properties, built (.object traits properties) ∧ m.properties = schemaProperties v ambient properties := by
  obtain ⟨made, origin, gained⟩ := h fqcn m hf
  have same : m.kind = made.kind ∧ m.properties = made.properties := by
    rw [gained.same]
    exact ⟨rfl, rfl⟩
  rw [same.1] at hk
  rw [same.2]
  obtain ⟨name, space, traits, properties, hb, rfl⟩ := origin.exists_object hk
  exact ⟨traits, properties, hb, properties_entityOf name space properties⟩

end Hints

namespace Generator

variable {g : Generator} {document : Json} {rootName : String} {c : Collection}

/-- Every object that classes are built for is a node of the document, and the property of each of its keys, the
last one of those with one name, has the hint that goes with the schema of the key; every entity of a result
has the properties of such an object. -/
theorem generate_nullable (plain : PlainNames g.filters) (h : (g.generate document rootName).1 = .ok c) :
    ∃ set, (Schema.parse document rootName).1 = .ok set ∧
      (∀ traits properties, Builds set (.object traits properties) → ∃ node required schemas,
        Reachable document (.object node) ∧ HasKind node "object" ∧ requiredKeys node = .ok required ∧
        propertySchemas? node = some schemas ∧
        ∀ name key schema, lastUnder? g.filters.propertyName schemas name = some (key, schema) → ∃ p,
          (schemaProperties g.valueObjects g.ambient properties).at? name = some p ∧
          HintFits document required key schema p) ∧
      ∀ fqcn m, c.get? fqcn = some m → m.kind = .entity → ∃ traits properties,
        Builds set (.object traits properties) ∧
        m.properties = schemaProperties g.valueObjects g.ambient properties := by
  obtain ⟨set, before, hp, -, origin, hc⟩ := generate_originates h
  refine ⟨set, hp, fun traits properties hb => ?_, fun fqcn m hf hk => ?_⟩
  · obtain ⟨json, stands⟩ := hb.stands ⟨document, stands_of_parse hp⟩
    obtain ⟨node, required, schemas, rfl, kind, hr, hs, each⟩ := stands.object
    exact ⟨node, required, schemas, stands.1, kind, hr, hs, fun name key schema last =>
      hintFits_of_stands plain each last⟩
  · rw [hc] at hf
    split at hf
    · rcases Collection.of_get?_addAll _ hf with ⟨added, -⟩ | ⟨-, hf⟩
      · obtain ⟨enum, -, made⟩ := mem_exceptions.1 added
        rw [kind_of_exception made] at hk
        cases hk
      · exact origin.entity hf hk
    · exact origin.entity hf hk

section Absent

open Build

/-! A required reference to a text that may be null. -/

def absentReference : Json := .object [("$ref", .string "#/definitions/n")]

def absentTarget : Json := .object [("type", .array [.string "string", .string "null"])]

def absentNode : Node := [("properties", .object [("p", absentReference)]), ("required", .array [.string "p"]),
  ("definitions", .object [("n", absentTarget)])]

def absent : Json := .object absentNode

def absentText : TypeDef := .string { name := "n", nullable := true } none none

def absentProperty : TypeDef :=
  .reference { name := "p", required := true } "#/definitions/n" (some ⟨absentText, []⟩)

def absentRoot : TypeDef := .object { name := "r", required := true } [("p", ⟨absentProperty, []⟩)]

def absentClass : ClassModel :=
  named (Template.Scalar.text.build conventionalNames true "n") (conventionalNames.className "n")
    (extractNamespace (ambient {}) absentText)

def absentEntity : ClassModel :=
  entityOf (valueObjects {}) (ambient {}) (conventionalNames.className "r")
    (extractNamespace (ambient {}) absentRoot) [("p", ⟨absentProperty, []⟩)]

/-- What the build of the property leaves. -/
def absentState : BuildState := (BuildState.report {} [.valueObjectBuilt absentClass.fqcn "string"]).add absentClass

def absentBuilt : BuildState := absentState.addEntity absentEntity

theorem propertyClass_absent : Runs (propertyClass (valueObjects {}) (ambient {}) "p" absentProperty) {}
    (.ok (promisedName (valueObjects {}) (ambient {}) "p" absentProperty)) absentState :=
  propertyClass_reference_value trivial rfl

theorem build_absent : build {} ⟨absentRoot, []⟩ "r" = (.ok (), absentBuilt) :=
  buildSet_single propertyClass_absent

theorem parse_absent : Schema.parse absent "r" = (.ok ⟨absentRoot, []⟩, []) := by
  unfold absentRoot absentProperty absentText
  cbv

def absentClasses : Collection := (finish {} absentBuilt.collection).1

theorem generate_absent : (generate {} absent "r").1 = .ok absentClasses :=
  congrArg Prod.fst (generate_of_build parse_absent build_absent)

theorem entity_absent : (absentClasses.get? "App\\R").map (·.kind) = some .entity := by
  decide +kernel

theorem select?_absent : absent.select? "/definitions/n" = some absentTarget := by
  unfold absent absentNode absentTarget
  cbv

theorem leadsToKind_absent : LeadsToKind absent "null" absentReference := by
  have several : NamesKinds [("type", .array [.string "string", .string "null"])] ["string", "null"] := .several rfl
  exact .behind rfl select?_absent (.here ⟨rfl, _, several, by decide⟩)

/-- Of the nodes that are reached only the document itself is an object. -/
theorem reachable_absent {json : Json} (h : Reachable absent json) :
    json = absent ∨ json = absentReference ∨ json = absentTarget := by
  induction h with
  | top => exact .inl rfl
  | @property node properties entry _ _ hl he ih =>
    rcases ih with h | h | h <;> cases h <;> cases hl
    cases List.mem_singleton.1 he
    exact .inr (.inl rfl)
  | @item node item _ _ hl ih => rcases ih with h | h | h <;> cases h <;> cases hl
  | @element node items item _ _ hl _ ih => rcases ih with h | h | h <;> cases h <;> cases hl
  | @target node pointer part _ hl hs ih =>
    rcases ih with h | h | h <;> cases h
    · cases hl
    · have pointer_eq : pointer = "/definitions/n" := by
        have texts : "#/definitions/n" = "#" ++ pointer := by
          injection Option.some.inj hl
        exact Option.some.inj ((localPointer?_eq_some.2 texts).symm.trans (by decide))
      rw [pointer_eq, select?_absent] at hs
      exact .inr (.inr (Option.some.inj hs).symm)
    · cases hl

theorem node_eq_absentNode {node : Node} (h : Reachable absent (.object node)) (kind : HasKind node "object") :
    node = absentNode := by
  obtain ⟨direct, kinds, names, object⟩ := kind
  rcases reachable_absent h with h | h | h <;> cases h
  · rfl
  · cases direct
  · cases names with
    | @several kinds hl =>
      -- a list with the same texts has the same kinds
      have values : [Json.string "string", Json.string "null"] = kinds.map .string := by injection Option.some.inj hl
      have texts := congrArg (List.filterMap Json.text?) values
      rw [List.filterMap_map, show Json.text? ∘ Json.string = some from rfl, List.filterMap_some] at texts
      rw [← texts] at object
      exact absurd object (by decide)
    | one hl | object hl | array hl | string hl => cases hl

/-- The property has no question mark, though what its schema leads to names null. -/
theorem generate_nullable_absent : ∃ c m p, (generate {} absent "r").1 = .ok c ∧ c.get? "App\\R" = some m ∧
    m.properties.at? "p" = some p ∧ p.isNullable = false ∧ IsReference absentReference ∧
    LeadsToKind absent "null" absentReference := by
  have reference : IsReference absentReference := ⟨_, _, rfl, rfl⟩
  obtain ⟨m, hm, kind⟩ := Option.map_eq_some_iff.1 entity_absent
  obtain ⟨set, -, objects, entities⟩ := @generate_nullable {} _ _ _ plainNames_conventional generate_absent
  obtain ⟨traits, properties, built, he⟩ := entities "App\\R" m hm kind
  obtain ⟨node, required, schemas, reached, object, hr, hs, hints⟩ := objects traits properties built
  obtain rfl := node_eq_absentNode reached object
  obtain rfl : ["p"] = required := Except.ok.inj hr
  obtain rfl : [("p", absentReference)] = schemas := Option.some.inj hs
  have last : lastUnder? (filters {}).propertyName [("p", absentReference)] "p" = some ("p", absentReference) :=
    List.find?_cons_of_pos (by decide +kernel)
  obtain ⟨p, hp, fits⟩ := hints "p" "p" absentReference last
  refine ⟨absentClasses, m, p, generate_absent, hm, he ▸ hp, ?_, reference, leadsToKind_absent⟩
  rw [← Bool.not_eq_true, fits.exact]
  rintro (absence | named)
  · exact absence (List.mem_singleton_self _)
  · exact not_isReference_of_namesKind named reference

end Absent

end Generator

end SchemaClasses
