/-
Type sets that are the same but for the order of properties and for some references that are resolved
in one of them only. Rearranged documents have such type sets.
-/
import SchemaClasses.Proofs.Schema.Rearranged
import SchemaClasses.Proofs.Schema.Unresolved

namespace SchemaClasses

/-- Two definitions are the same but for the order of properties, where `order` allows it, and for
references with texts in `loose`, which may be resolved in one of them only. -/
inductive TypeDef.Agrees (order : List String → List String → Prop) (loose : String → Prop) :
    TypeDef → TypeDef → Prop
  | object {traits : Traits} {properties properties' : List (String × TypeSet)} :
      (properties.map Prod.fst).Perm (properties'.map Prod.fst) →
      (properties.map Prod.fst = properties'.map Prod.fst ∨
        order (properties.map Prod.fst) (properties'.map Prod.fst)) →
      (∀ key set set', (key, set) ∈ properties → (key, set') ∈ properties' →
        List.Forall₂ (TypeDef.Agrees order loose) set.toList set'.toList) →
      TypeDef.Agrees order loose (.object traits properties) (.object traits properties')
  | array {traits : Traits} {items items' : List TypeSet} :
      List.Forall₂ (fun set set' => List.Forall₂ (TypeDef.Agrees order loose) set.toList set'.toList)
        items items' →
      TypeDef.Agrees order loose (.array traits items) (.array traits items')
  | string (traits : Traits) (format : Option String) (choices : Option (List String)) :
      TypeDef.Agrees order loose (.string traits format choices) (.string traits format choices)
  | integer (traits : Traits) : TypeDef.Agrees order loose (.integer traits) (.integer traits)
  | number (traits : Traits) : TypeDef.Agrees order loose (.number traits) (.number traits)
  | boolean (traits : Traits) : TypeDef.Agrees order loose (.boolean traits) (.boolean traits)
  | unresolved (traits : Traits) (pointer : String) :
      TypeDef.Agrees order loose (.reference traits pointer none) (.reference traits pointer none)
  | resolved {traits : Traits} {pointer : String} {set set' : TypeSet} :
      List.Forall₂ (TypeDef.Agrees order loose) set.toList set'.toList →
      TypeDef.Agrees order loose (.reference traits pointer (some set))
        (.reference traits pointer (some set'))
  | first {traits : Traits} {pointer : String} {set : TypeSet} : loose pointer →
      TypeDef.Agrees order loose (.reference traits pointer (some set)) (.reference traits pointer none)
  | second {traits : Traits} {pointer : String} {set : TypeSet} : loose pointer →
      TypeDef.Agrees order loose (.reference traits pointer none) (.reference traits pointer (some set))

/-- The alternatives of two type sets agree one by one. -/
abbrev TypeSet.Agrees (order : List String → List String → Prop) (loose : String → Prop)
    (set set' : TypeSet) : Prop :=
  List.Forall₂ (TypeDef.Agrees order loose) set.toList set'.toList

section Parts

variable {order : List String → List String → Prop} {loose : String → Prop} {traits traits' : Traits}
  {others others' : List TypeDef} {set set' : TypeSet} {text text' : String}

theorem TypeSet.Agrees.property {properties properties' : List (String × TypeSet)} {key : String}
    (h : TypeSet.Agrees order loose ⟨.object traits properties, others⟩ ⟨.object traits' properties', others'⟩)
    (hm : (key, set) ∈ properties) (hm' : (key, set') ∈ properties') : TypeSet.Agrees order loose set set' := by
  obtain ⟨hd, -⟩ := List.forall₂_cons.1 h
  cases hd with
  | object _ _ values => exact values key set set' hm hm'

theorem TypeSet.Agrees.target (h : TypeSet.Agrees order loose ⟨.reference traits text (some set), others⟩
    ⟨.reference traits' text' (some set'), others'⟩) : TypeSet.Agrees order loose set set' := by
  obtain ⟨hd, -⟩ := List.forall₂_cons.1 h
  cases hd with
  | resolved h => exact h

theorem TypeSet.Agrees.loose_of_first (h : TypeSet.Agrees order loose
    ⟨.reference traits text (some set), others⟩ ⟨.reference traits' text' none, others'⟩) : loose text := by
  obtain ⟨hd, -⟩ := List.forall₂_cons.1 h
  cases hd with
  | first hl => exact hl

end Parts

namespace Schema

open Lowering Json

variable {order : List String → List String → Prop} {loose : String → Prop}

theorem agrees_setRequired {required : Bool} {set set' : TypeSet} (h : TypeSet.Agrees order loose set set') :
    TypeSet.Agrees order loose (set.map (TypeDef.setRequired required))
      (set'.map (TypeDef.setRequired required)) := by
  rw [TypeSet.Agrees, toList_map, toList_map, List.forall₂_map_left_iff, List.forall₂_map_right_iff]
  refine h.imp fun d d' hd => ?_
  cases hd with
  | object perm same values => exact .object perm same values
  | array items => exact .array items
  | string traits format choices => exact .string _ format choices
  | integer traits => exact .integer _
  | number traits => exact .number _
  | boolean traits => exact .boolean _
  | unresolved traits pointer => exact .unresolved _ pointer
  | resolved h => exact .resolved h
  | first hl => exact .first hl
  | second hl => exact .second hl

/-- The answers to one reference agree. -/
def AnswersAgree (order : List String → List String → Prop) (loose : String → Prop) (target : String) :
    Option TypeSet → Option TypeSet → Prop
  | none, none => True
  | some set, some set' => TypeSet.Agrees order loose set set'
  | _, _ => loose target

/-- What rearranged nodes yield as one kind agrees if what their parts yield does. -/
theorem agrees_kind {Q Q' : String → Option TypeSet → Prop} {node node' : Node}
    (h : Rearranged order (.object node) (.object node')) {traits : Traits} {kind kind' : String} {d d' : TypeDef}
    (hk : kind = kind') (hy : YieldsKind Q node traits kind d) (hy' : YieldsKind Q' node' traits kind' d')
    (ih : ∀ schema schema', sizeOf schema < sizeOf node → Rearranged order schema schema' →
      ∀ p p' n set set', Yields Q (lowerNode schema p n) set → Yields Q' (lowerNode schema' p' n) set' →
        TypeSet.Agrees order loose set set') : TypeDef.Agrees order loose d d' := by
  cases hy with
  | @object required properties out hr hp hs =>
    cases hy' with
    | @object required' properties' out' hr' hp' hs' =>
      rw [requiredKeys_eq h, hr'] at hr
      cases hr
      have rel := propertySchemas?_rel h
      rw [hp, hp'] at rel
      cases rel with
      | some rel =>
        refine .object ?_ ?_ fun key set set' hm hm' => ?_
        · rw [names_of_yields hs, names_of_yields hs']
          exact rel.keys_perm
        · rw [names_of_yields hs, names_of_yields hs']
          exact rel.keys_order
        -- the two properties of one key come from schemas of that key
        obtain ⟨schema, p, inner, he, hy, rfl⟩ := exists_schema_of_mem hs hm
        obtain ⟨schema', p', inner', he', hy', rfl⟩ := exists_schema_of_mem hs' hm'
        exact agrees_setRequired (ih schema schema' (sizeOf_lt_of_propertySchemas hp he)
          (rel.of_mem_of_mem he he') _ _ _ _ _ hy hy')
    | _ => exact absurd hk (by decide)
  | array hi hs =>
    cases hy' with
    | array hi' hs' =>
      have rel := itemSchemas?_rel h
      rw [hi, hi'] at rel
      cases rel with
      | some rel =>
        refine .array (forall₂_join hs (forall₂_comp rel hs') fun schema hm set set' hy hy' => ?_)
        obtain ⟨p, hy⟩ := hy
        obtain ⟨schema', hr, p', hy'⟩ := hy'
        rw [← itemName_eq hr] at hy'
        exact ih schema schema' (sizeOf_lt_of_itemSchemas hi hm) hr _ _ _ _ _ hy hy'
    | _ => exact absurd hk (by decide)
  | string hc =>
    cases hy' with
    | string hc' =>
      rw [choices_ok h hc] at hc'
      cases hc'
      rw [format?_eq h]
      exact .string _ _ _
    | _ => exact absurd hk (by decide)
  | integer =>
    cases hy' with
    | integer => exact .integer _
    | _ => exact absurd hk (by decide)
  | number =>
    cases hy' with
    | number => exact .number _
    | _ => exact absurd hk (by decide)
  | boolean =>
    cases hy' with
    | boolean => exact .boolean _
    | _ => exact absurd hk (by decide)

/-- What rearranged documents yield agrees if the answers to their references do. -/
theorem agrees_of_yields {Q Q' : String → Option TypeSet → Prop}
    (hQ : ∀ t answer answer', Q t answer → Q' t answer' → AnswersAgree order loose t answer answer')
    (json : Json) {json' : Json} (h : Rearranged order json json') {pointer pointer' name : String}
    {set set' : TypeSet} (hy : Yields Q (lowerNode json pointer name) set)
    (hy' : Yields Q' (lowerNode json' pointer' name) set') : TypeSet.Agrees order loose set set' := by
  -- a rearranged node has the same keywords, and so the same way to be lowered
  match json, yields_lowerNode hy with
  | .object node, @YieldsNode.reference _ _ _ target answer hl hq =>
    obtain ⟨node', rfl⟩ := h.exists_object
    have hl' := h.lookup_string hl
    cases yields_lowerNode hy' with
    | @reference _ _ answer' ht hq' =>
      rw [hl'] at ht
      cases ht
      have agree := hQ _ _ _ hq hq'
      rw [segments?_eq h]
      refine .cons ?_ .nil
      cases answer <;> cases answer'
      · exact .unresolved _ _
      · exact .second agree
      · exact .first agree
      · exact .resolved agree
    | kinds hn =>
      rw [hl'] at hn
      cases hn
  | .object node, .kinds hl hd hk =>
    obtain ⟨node', rfl⟩ := h.exists_object
    have hl' := h.lookup_none hl
    cases yields_lowerNode hy' with
    | reference hn =>
      rw [hl'] at hn
      cases hn
    | kinds _ hd' hk' =>
      rw [← declaredKinds_eq h, hd] at hd'
      cases hd'
      rw [← segments?_eq h] at hk'
      refine forall₂_join hk hk' fun kind _ d d' hy hy' => agrees_kind h rfl hy hy' ?_
      intro schema schema' smaller hr p p' n set set' hy hy'
      exact agrees_of_yields hQ schema hr hy hy'
termination_by sizeOf json
decreasing_by
  simp only [Json.object.sizeOf_spec]
  omega

end Schema

end SchemaClasses
