/-
What the lowering of a node comes to, read off the keywords of the node: `yields_lowerNode` and
`yields_lowerKind` say which type sets it can have, `lowerNode_steady` that its references do not
depend on any answer and stand in the node itself.
-/
import SchemaClasses.Proofs.Lists
import SchemaClasses.Proofs.Schema.Lowering

namespace SchemaClasses.Schema

open Lowering

/-! ## Parts of a node -/

/-- The properties that an object node declares, none without the keyword. -/
def propertySchemas? (node : Node) : Option Node :=
  match node.lookup "properties" with
  | none => some []
  | some (.object properties) => some properties
  | some _ => none

/-- The schemas that an array node declares for its items. -/
def itemSchemas? (node : Node) : Option (List Json) :=
  match node.lookup "items" with
  | some (.object item) => some [.object item]
  | some (.array (first :: others)) => some (first :: others)
  | _ => none

theorem lookup_of_propertySchemas {node properties : Node} (h : propertySchemas? node = some properties)
    {entry : String × Json} (he : entry ∈ properties) : node.lookup "properties" = some (.object properties) := by
  unfold propertySchemas? at h
  split at h
  · cases h
    cases he
  · rename_i found hl
    cases h
    exact hl
  · cases h

/-- The item schemas of a node stand under its keyword, one alone or in an array. -/
theorem lookup_of_itemSchemas {node : Node} {schemas : List Json} (h : itemSchemas? node = some schemas)
    {schema : Json} (hs : schema ∈ schemas) :
    node.lookup "items" = some schema ∨ node.lookup "items" = some (.array schemas) := by
  unfold itemSchemas? at h
  split at h
  · rename_i item hl
    cases h
    rw [List.mem_singleton] at hs
    subst hs
    exact .inl hl
  · rename_i first others hl
    cases h
    exact .inr hl
  · cases h

theorem sizeOf_lt_of_propertySchemas {node properties : Node} (h : propertySchemas? node = some properties)
    {entry : String × Json} (he : entry ∈ properties) : sizeOf entry.2 < sizeOf node := by
  have inner := List.sizeOf_lt_of_mem he
  have outer := sizeOf_lt_of_lookup (lookup_of_propertySchemas h he)
  obtain ⟨key, schema⟩ := entry
  simp only [Json.object.sizeOf_spec, Prod.mk.sizeOf_spec] at *
  omega

theorem sizeOf_lt_of_itemSchemas {node : Node} {schemas : List Json} (h : itemSchemas? node = some schemas)
    {schema : Json} (hs : schema ∈ schemas) : sizeOf schema < sizeOf node := by
  rcases lookup_of_itemSchemas h hs with hl | hl
  · exact sizeOf_lt_of_lookup hl
  · have inner := List.sizeOf_lt_of_mem hs
    have outer := sizeOf_lt_of_lookup hl
    simp only [Json.array.sizeOf_spec] at *
    omega

theorem itemSchemas?_of_element {node : Node} {items : List Json} {item : Json}
    (hl : node.lookup "items" = some (.array items)) (hm : item ∈ items) : itemSchemas? node = some items := by
  unfold itemSchemas?
  rw [hl]
  cases items with
  | nil => cases hm
  | cons first others => rfl

/-- The parts of a node as one kind, each with what leads there from the pointer of the node. -/
inductive PartAs (node : Node) : String → String → Json → Prop
  | property {properties : Node} {key : String} {schema : Json} :
      node.lookup "properties" = some (.object properties) → (key, schema) ∈ properties →
      PartAs node "object" ("/properties/" ++ Json.escapeToken key) schema
  | item {item : Node} : node.lookup "items" = some (.object item) → PartAs node "array" "/items" (.object item)
  | element {items : List Json} {i : Nat} {item : Json} : node.lookup "items" = some (.array items) →
      items[i]? = some item → PartAs node "array" ("/items/" ++ toString i) item

/-- The parts of a node are the schemas that it declares. -/
theorem PartAs.declared {node : Node} {kind suffix : String} {part : Json} (h : PartAs node kind suffix part) :
    (kind = "object" ∧ ∃ properties key, propertySchemas? node = some properties ∧ (key, part) ∈ properties) ∨
      kind = "array" ∧ ∃ schemas, itemSchemas? node = some schemas ∧ part ∈ schemas := by
  cases h with
  | @property properties key _ hl hm => exact .inl ⟨rfl, properties, key, by rw [propertySchemas?, hl], hm⟩
  | @item item hl => exact .inr ⟨rfl, [.object item], by rw [itemSchemas?, hl], List.mem_singleton_self _⟩
  | @element items _ _ hl hi =>
    have hm := List.mem_of_getElem? hi
    exact .inr ⟨rfl, items, itemSchemas?_of_element hl hm, hm⟩

theorem exists_part_of_itemSchemas {node : Node} {schemas : List Json} (h : itemSchemas? node = some schemas)
    {schema : Json} (hs : schema ∈ schemas) : ∃ suffix, PartAs node "array" suffix schema := by
  unfold itemSchemas? at h
  split at h
  · rename_i item hl
    cases h
    rw [List.mem_singleton] at hs
    subst hs
    exact ⟨_, .item hl⟩
  · rename_i first others hl
    cases h
    obtain ⟨i, hi⟩ := List.mem_iff_getElem?.1 hs
    exact ⟨_, .element hl hi⟩
  · cases h

theorem sizeOf_lt_of_part {node : Node} {kind suffix : String} {part : Json} (h : PartAs node kind suffix part) :
    sizeOf part < sizeOf node := by
  obtain ⟨-, properties, key, hp, hm⟩ | ⟨-, schemas, hi, hm⟩ := h.declared
  · exact sizeOf_lt_of_propertySchemas hp hm
  · exact sizeOf_lt_of_itemSchemas hi hm

/-! ## Values -/

section Yields

variable {Q : String → Option TypeSet → Prop}

/-- One property of a type that yields a given type set. -/
def YieldsProperty (Q : String → Option TypeSet → Prop) (required : List String) (entry : String × Json)
    (out : String × TypeSet) : Prop :=
  out.1 = entry.1 ∧ ∃ pointer set, Yields Q (lowerNode entry.2 pointer entry.1) set ∧
    out.2 = set.map (TypeDef.setRequired (required.contains entry.1))

/-- One item of an array that yields a given type set. -/
def YieldsItem (Q : String → Option TypeSet → Prop) (arrayName : String) (schema : Json) (set : TypeSet) :
    Prop :=
  ∃ pointer, Yields Q (lowerNode schema pointer (itemName schema arrayName)) set

theorem yields_lowerKinds {node : Node} {pointer : String} {traits : Traits} :
    ∀ {kinds : List String} {ds : List TypeDef}, Yields Q (lowerKinds node pointer traits kinds) ds ↔
      List.Forall₂ (fun kind d => Yields Q (lowerKind node pointer traits kind) d) kinds ds
  | [], ds => by
    rw [lowerKinds, List.forall₂_nil_left_iff]
    exact Iff.rfl
  | kind :: rest, ds => by
    simp only [lowerKinds, bind_eq, pure_eq, yields_andThen, Yields, yields_lowerKinds,
      List.forall₂_cons_left_iff]
    constructor
    · rintro ⟨d, hd, rest', hr, rfl⟩
      exact ⟨d, rest', hd, hr, rfl⟩
    · rintro ⟨d, rest', hd, hr, rfl⟩
      exact ⟨d, hd, rest', hr, rfl⟩

theorem yields_lowerProperties {pointer : String} {required : List String} :
    ∀ {properties : Node} {out : List (String × TypeSet)},
      Yields Q (lowerProperties pointer required properties) out →
        List.Forall₂ (YieldsProperty Q required) properties out
  | [], out, h => by
    rw [lowerProperties] at h
    cases h
    exact .nil
  | (key, schema) :: rest, out, h => by
    simp only [lowerProperties, bind_eq, pure_eq, yields_andThen, Yields] at h
    obtain ⟨set, hs, others, ho, rfl⟩ := h
    exact .cons ⟨rfl, _, set, hs, rfl⟩ (yields_lowerProperties ho)

theorem yields_lowerItems {pointer arrayName : String} :
    ∀ {index : Nat} {items : List Json} {sets : List TypeSet},
      Yields Q (lowerItems pointer arrayName index items) sets →
        List.Forall₂ (YieldsItem Q arrayName) items sets
  | _, [], sets, h => by
    rw [lowerItems] at h
    cases h
    exact .nil
  | index, item :: rest, sets, h => by
    simp only [lowerItems, bind_eq, pure_eq, yields_andThen, Yields] at h
    obtain ⟨set, hs, others, ho, rfl⟩ := h
    exact .cons ⟨_, hs⟩ (yields_lowerItems ho)

/-- The names of yielded properties are the keys of the schemas. -/
theorem names_of_yields {required : List String} {properties : Node}
    {out : List (String × TypeSet)} (h : List.Forall₂ (YieldsProperty Q required) properties out) :
    out.map Prod.fst = properties.map Prod.fst := by
  induction h with
  | nil => rfl
  | cons hy _ ih => rw [List.map_cons, List.map_cons, hy.1, ih]

theorem exists_schema_of_mem {required : List String} {properties : Node} {out : List (String × TypeSet)}
    (h : List.Forall₂ (YieldsProperty Q required) properties out) {key : String} {set : TypeSet}
    (hm : (key, set) ∈ out) : ∃ schema pointer inner, (key, schema) ∈ properties ∧
      Yields Q (lowerNode schema pointer key) inner ∧
      set = inner.map (TypeDef.setRequired (required.contains key)) := by
  obtain ⟨⟨name, schema⟩, he, hk, pointer, inner, hy, hs⟩ := exists_left_of_forall₂ h hm
  cases hk
  exact ⟨schema, pointer, inner, he, hy, hs⟩

/-- The definitions that a node can have as one kind. -/
inductive YieldsKind (Q : String → Option TypeSet → Prop) (node : Node) (traits : Traits) :
    String → TypeDef → Prop
  | object {required : List String} {properties : Node} {out : List (String × TypeSet)} :
      requiredKeys node = .ok required → propertySchemas? node = some properties →
      List.Forall₂ (YieldsProperty Q required) properties out →
      YieldsKind Q node traits "object" (.object traits out)
  | array {schemas : List Json} {sets : List TypeSet} : itemSchemas? node = some schemas →
      List.Forall₂ (YieldsItem Q traits.name) schemas sets →
      YieldsKind Q node traits "array" (.array traits sets)
  | string {values : Option (List String)} : choices node = .ok values →
      YieldsKind Q node traits "string" (.string traits (format? node) values)
  | integer : YieldsKind Q node traits "integer" (.integer traits)
  | number : YieldsKind Q node traits "number" (.number traits)
  | boolean : YieldsKind Q node traits "boolean" (.boolean traits)

/-- The type sets that a node can have under a name. -/
inductive YieldsNode (Q : String → Option TypeSet → Prop) (name : String) : Json → TypeSet → Prop
  | reference {node : Node} {target : String} {answer : Option TypeSet} :
      node.lookup "$ref" = some (.string target) → Q target answer →
      YieldsNode Q name (.object node)
        ⟨.reference { name := name, segments := segments? node } target answer, []⟩
  | kinds {node : Node} {kinds : Alternatives String} {nullable : Bool} {set : TypeSet} :
      node.lookup "$ref" = none → declaredKinds node = .ok (kinds, nullable) →
      List.Forall₂ (YieldsKind Q node { name := name, segments := segments? node, nullable := nullable })
        kinds.toList set.toList →
      YieldsNode Q name (.object node) set

theorem yields_lowerKind {node : Node} {pointer : String} {traits : Traits} {kind : String} {d : TypeDef}
    (h : Yields Q (lowerKind node pointer traits kind) d) : YieldsKind Q node traits kind d := by
  unfold lowerKind at h
  split at h
  · rw [bind_eq, yields_andThen] at h
    obtain ⟨required, hr, h⟩ := h
    rw [yields_keyword] at hr
    split at h
    · rename_i hl
      cases h
      exact .object hr (by rw [propertySchemas?, hl]) .nil
    · rename_i properties hl
      simp only [bind_eq, pure_eq, yields_andThen, Yields] at h
      obtain ⟨out, ho, rfl⟩ := h
      exact .object hr (by rw [propertySchemas?, hl]) (yields_lowerProperties ho)
    · cases h
  · split at h
    · rename_i item hl
      simp only [bind_eq, pure_eq, yields_andThen, Yields] at h
      obtain ⟨set, hs, rfl⟩ := h
      exact .array (by rw [itemSchemas?, hl]) (.cons ⟨_, hs⟩ .nil)
    · rename_i first others hl
      simp only [bind_eq, pure_eq, yields_andThen, Yields] at h
      obtain ⟨sets, hs, rfl⟩ := h
      exact .array (by rw [itemSchemas?, hl]) (yields_lowerItems hs)
    · cases h
  · simp only [bind_eq, pure_eq, yields_andThen, yields_keyword, Yields] at h
    obtain ⟨values, hv, rfl⟩ := h
    exact .string hv
  · cases h
    exact .integer
  · cases h
    exact .number
  · cases h
    exact .boolean
  · cases h

theorem yields_lowerNode {json : Json} {pointer name : String} {set : TypeSet}
    (h : Yields Q (lowerNode json pointer name) set) : YieldsNode Q name json set := by
  unfold lowerNode at h
  split at h
  · rename_i node
    split at h
    · rename_i target hl
      simp only [bind_eq, pure_eq, yields_andThen, ask, Yields] at h
      obtain ⟨_, ⟨answer, hq, rfl⟩, rfl⟩ := h
      exact .reference hl hq
    · cases h
    · rename_i hl
      simp only [bind_eq, pure_eq, yields_andThen, yields_keyword, Yields, yields_lowerKinds] at h
      obtain ⟨⟨kinds, nullable⟩, hk, first, hf, others, ho, rfl⟩ := h
      refine .kinds hl hk (.cons (yields_lowerKind hf) (ho.imp fun _ _ => yields_lowerKind))
  · cases h

end Yields

/-! ## Faults -/

/-- What is wrong with a node as one kind, apart from its parts. -/
def kindFault? (node : Node) (kind : String) : Option SchemaFault :=
  match kind with
  | "object" =>
    match requiredKeys node with
    | .error reason => some reason
    | .ok _ => if (propertySchemas? node).isSome then none else some .propertiesNotObject
  | "array" => if (itemSchemas? node).isSome then none else some .itemsMissing
  | "string" =>
    match choices node with
    | .error reason => some reason
    | .ok _ => none
  | "integer" => none
  | "number" => none
  | "boolean" => none
  | other => some (.unknownType other)

/-! ## Steadiness -/

section Steady

variable {T : String → Prop} {E : GenerateError → Prop}

theorem alike_lowerProperties {pointer : String} {required required' : List String} :
    ∀ {properties : Node}, (∀ entry ∈ properties, Steady T E
        (lowerNode entry.2 (pointer ++ "/properties/" ++ Json.escapeToken entry.1) entry.1)) →
      Alike T E (lowerProperties pointer required properties) (lowerProperties pointer required' properties)
  | [], _ => by
    rw [lowerProperties, lowerProperties]
    trivial
  | (key, schema) :: rest, h => by
    rw [lowerProperties, lowerProperties]
    exact Alike.andThen
      (fun _ _ => Alike.andThen (fun _ _ => alike_done _ _)
        (alike_lowerProperties fun entry he => h entry (List.mem_cons_of_mem _ he)))
      (h _ (List.mem_cons_self ..))

theorem steady_lowerItems {pointer arrayName : String} :
    ∀ {index : Nat} {items : List Json}, (∀ i item, items[i]? = some item → Steady T E
        (lowerNode item (pointer ++ "/items/" ++ toString (index + i)) (itemName item arrayName))) →
      Steady T E (lowerItems pointer arrayName index items)
  | _, [], _ => by
    rw [lowerItems]
    trivial
  | index, item :: rest, h => by
    rw [lowerItems]
    refine (h 0 item rfl).andThen fun _ _ => Alike.andThen (fun _ _ => alike_done _ _)
      (steady_lowerItems fun i other ho => ?_)
    rw [Nat.add_right_comm]
    exact h (i + 1) other ho

theorem steady_lowerKinds {node : Node} {pointer : String} {traits : Traits} :
    ∀ {kinds : List String}, (∀ kind ∈ kinds, Steady T E (lowerKind node pointer traits kind)) →
      Steady T E (lowerKinds node pointer traits kinds)
  | [], _ => by
    rw [lowerKinds]
    trivial
  | kind :: rest, h => by
    rw [lowerKinds]
    exact (h _ (List.mem_cons_self ..)).andThen fun _ _ => Alike.andThen (fun _ _ => alike_done _ _)
      (steady_lowerKinds fun other ho => h other (List.mem_cons_of_mem _ ho))

/-- A node is steady as one kind if its parts are. -/
theorem steady_lowerKind {node : Node} {pointer : String} {traits : Traits} {kind : String}
    (hf : ∀ reason, kindFault? node kind = some reason → E (.invalidSchema pointer reason))
    (hp : ∀ suffix part, PartAs node kind suffix part → ∀ name, Steady T E (lowerNode part (pointer ++ suffix) name)) :
    Steady T E (lowerKind node pointer traits kind) := by
  unfold lowerKind
  split
  · cases hr : requiredKeys node with
    | error reason => exact ⟨rfl, hf reason (by simp [kindFault?, hr])⟩
    | ok required =>
      refine Steady.andThen (steady_keyword (by simp)) fun a a' => ?_
      split
      · trivial
      · rename_i properties hl
        refine Alike.andThen (fun _ _ => alike_done _ _) (alike_lowerProperties fun entry he => ?_)
        rw [String.append_assoc]
        exact hp _ _ (.property hl he) _
      · rename_i hl hl'
        exact ⟨rfl, hf _ (by simp [kindFault?, hr, propertySchemas?, hl'])⟩
  · split
    · rename_i item hl
      exact (hp _ _ (.item hl) _).andThen fun _ _ => alike_done _ _
    · rename_i first others hl
      refine Steady.andThen (steady_lowerItems fun i item hi => ?_) fun _ _ => alike_done _ _
      rw [Nat.zero_add, String.append_assoc]
      exact hp _ _ (.element hl hi) _
    · exact ⟨rfl, hf _ (by simp [kindFault?, itemSchemas?])⟩
  · refine Steady.andThen (steady_keyword fun reason hc => hf reason ?_) fun _ _ => alike_done _ _
    simp [kindFault?, hc]
  · trivial
  · trivial
  · trivial
  · exact ⟨rfl, hf _ (by simp [kindFault?, *])⟩

/-- A node is steady if each of its kinds is. -/
theorem steady_lowerNode {node : Node} {pointer name : String}
    (hr : ∀ target, node.lookup "$ref" = some (.string target) → T target)
    (hn : ∀ value, node.lookup "$ref" = some value → value.text? = none →
      E (.invalidSchema pointer .refNotString))
    (hd : node.lookup "$ref" = none → ∀ reason, declaredKinds node = .error reason → E (.invalidSchema pointer reason))
    (hk : node.lookup "$ref" = none → ∀ kinds nullable, declaredKinds node = .ok (kinds, nullable) →
      ∀ kind ∈ kinds.toList, ∀ traits : Traits, traits.name = name →
        Steady T E (lowerKind node pointer traits kind)) :
    Steady T E (lowerNode (.object node) pointer name) := by
  unfold lowerNode
  simp only
  split
  · rename_i target hl
    exact ⟨rfl, hr target hl, fun _ _ => alike_done _ _⟩
  · rename_i value hs hl
    refine ⟨rfl, hn value hl ?_⟩
    cases value with
    | string target => exact absurd rfl (hs target)
    | _ => rfl
  · rename_i hl
    cases hd' : declaredKinds node with
    | error reason => exact ⟨rfl, hd hl reason hd'⟩
    | ok found =>
      obtain ⟨kinds, nullable⟩ := found
      have hk := hk hl kinds nullable hd'
      exact (hk _ (List.mem_cons_self ..) _ rfl).andThen fun _ _ => Alike.andThen
        (fun _ _ => alike_done _ _)
        (steady_lowerKinds fun kind hm => hk kind (List.mem_cons_of_mem _ hm) _ rfl)

end Steady

/-! ## References in the node itself -/

theorem refTexts_of_lookup {node : Node} {key : String} {value : Json} (h : node.lookup key = some value) :
    ∀ t ∈ refTexts value, t ∈ refTextsOfEntries node := by
  intro t ht
  induction node with
  | nil => cases h
  | cons entry rest ih =>
    obtain ⟨k, v⟩ := entry
    rw [refTextsOfEntries]
    rw [List.lookup_cons] at h
    split at h
    · cases h
      simp [ht]
    · simp [ih h]

theorem mem_refTextsOfEntries {node : Node} {target : String}
    (h : node.lookup "$ref" = some (.string target)) : target ∈ refTextsOfEntries node := by
  induction node with
  | nil => cases h
  | cons entry rest ih =>
    obtain ⟨k, v⟩ := entry
    rw [refTextsOfEntries]
    rw [List.lookup_cons] at h
    split at h
    · rename_i hk
      cases h
      simp [(beq_iff_eq.1 hk).symm, Json.text?]
    · simp [ih h]

theorem refTexts_of_mem_entries {properties : Node} {entry : String × Json} (h : entry ∈ properties) :
    ∀ t ∈ refTexts entry.2, t ∈ refTextsOfEntries properties := by
  intro t ht
  induction properties with
  | nil => cases h
  | cons head rest ih =>
    rw [refTextsOfEntries]
    rcases List.mem_cons.1 h with rfl | h
    · simp [ht]
    · simp [ih h]

theorem refTexts_of_mem_items {items : List Json} {item : Json} (h : item ∈ items) :
    ∀ t ∈ refTexts item, t ∈ refTextsOfItems items := by
  intro t ht
  induction items with
  | nil => cases h
  | cons head rest ih =>
    rw [refTextsOfItems]
    rcases List.mem_cons.1 h with rfl | h
    · simp [ht]
    · simp [ih h]

theorem refTexts_of_part {node : Node} {kind suffix : String} {part : Json} (h : PartAs node kind suffix part) :
    ∀ t ∈ refTexts part, t ∈ refTextsOfEntries node := by
  intro t ht
  obtain ⟨-, properties, key, hp, hm⟩ | ⟨-, schemas, hi, hm⟩ := h.declared
  · refine refTexts_of_lookup (lookup_of_propertySchemas hp hm) t ?_
    rw [refTexts]
    exact refTexts_of_mem_entries hm t ht
  · rcases lookup_of_itemSchemas hi hm with hl | hl
    · exact refTexts_of_lookup hl t ht
    · refine refTexts_of_lookup hl t ?_
      rw [refTexts]
      exact refTexts_of_mem_items hm t ht

/-- The references that the lowering of a node asks for stand in the node, and whatever the answers
are it asks for the same ones and ends in the same way. -/
theorem lowerNode_steady (json : Json) (pointer name : String) {T : String → Prop}
    (hT : ∀ t ∈ refTexts json, T t) : Steady T (fun _ => True) (lowerNode json pointer name) := by
  -- the parts of a node are smaller; anything but an object is a fault at once
  match json with
  | .object node =>
    refine steady_lowerNode (fun target hl => hT target (mem_refTextsOfEntries hl)) (fun _ _ _ => trivial)
      (fun _ _ _ => trivial) fun _ kinds nullable _ kind _ traits _ => steady_lowerKind (fun _ _ => trivial) ?_
    intro suffix part hp name
    have := sizeOf_lt_of_part hp
    exact lowerNode_steady part (pointer ++ suffix) name fun t ht => hT t (refTexts_of_part hp t ht)
  | .null | .bool _ | .number _ | .string _ | .array _ =>
    rw [lowerNode]
    · exact ⟨rfl, trivial⟩
    · intro node h
      cases h
termination_by sizeOf json
decreasing_by all_goals simp only [Json.object.sizeOf_spec]; omega

end SchemaClasses.Schema
