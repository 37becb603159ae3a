/-
Rearranged documents are lowered alike. The keywords of a node do not depend on the order of its
entries, so a rearrangement of a node asks for the same references, and its type set is the same but
for the order of properties, wherever the answers are.
-/
import SchemaClasses.Proofs.Json.Rearranged
import SchemaClasses.Proofs.Run
import SchemaClasses.Proofs.Schema.Node

namespace SchemaClasses.Schema

open Lowering Json

variable {order : List String → List String → Prop}

/-! ## Keywords -/

theorem kindTexts_eq {items items' : List Json} (h : List.Forall₂ (Rearranged order) items items') :
    kindTexts items = kindTexts items' := by
  induction h with
  | nil => rfl
  | cons hr _ ih => cases hr <;> simp only [kindTexts, ih]

theorem choiceTexts_ok {items items' : List Json} (h : List.Forall₂ (Rearranged order) items items')
    {texts : List String} (ok : choiceTexts items = .ok texts) : choiceTexts items' = .ok texts := by
  induction h generalizing texts with
  | nil => exact ok
  | cons hr _ ih =>
    cases hr with
    -- a choice of null is passed over
    | null => exact ih ok
    | string text =>
      obtain ⟨others, read, rfl⟩ := except_map_eq_ok.1 ok
      simp only [choiceTexts, ih read]
      rfl
    | _ => cases ok

theorem filterMap_text?_eq {items items' : List Json} (h : List.Forall₂ (Rearranged order) items items') :
    items.filterMap text? = items'.filterMap text? := by
  induction h with
  | nil => rfl
  | cons hr _ ih => rw [List.filterMap_cons, List.filterMap_cons, hr.text?_eq, ih]

theorem itemName_eq {item item' : Json} (h : Rearranged order item item') (arrayName : String) :
    itemName item arrayName = itemName item' arrayName := by
  have title : (item.get? "title").bind text? = (item'.get? "title").bind text? := by
    cases h with
    | object nodup perm same values =>
      exact bind_text?_eq (Rearranged.lookup (.object nodup perm same values) "title")
    | _ => rfl
  unfold itemName
  rw [title]

section Keywords

variable {node node' : Node} (h : Rearranged order (.object node) (.object node'))

include h

theorem isSome_lookup_eq (key : String) : (node.lookup key).isSome = (node'.lookup key).isSome := by
  have hr := h.lookup key
  generalize node.lookup key = a, node'.lookup key = b at hr
  cases hr <;> rfl

theorem segments?_eq : segments? node = segments? node' := by
  have long := h.lookup "namespace"
  have short := h.lookup "ns"
  unfold segments?
  generalize node.lookup "namespace" = a, node'.lookup "namespace" = b at long
  cases long with
  | none => exact bind_text?_eq short
  | some hr => exact bind_text?_eq (.some hr)

theorem format?_eq : format? node = format? node' := bind_text?_eq (h.lookup "format")

theorem namedKinds_eq : namedKinds node = namedKinds node' := by
  have kind := h.lookup "type"
  have properties := isSome_lookup_eq h "properties"
  have items := isSome_lookup_eq h "items"
  have enum := isSome_lookup_eq h "enum"
  unfold namedKinds
  generalize node.lookup "type" = a, node'.lookup "type" = b at kind
  cases kind with
  | none => simp only [properties, items, enum]
  | some hr =>
    cases hr with
    | array length each => exact kindTexts_eq (Rearranged.array length each).items
    | _ => rfl

theorem declaredKinds_eq : declaredKinds node = declaredKinds node' := by
  unfold declaredKinds
  rw [namedKinds_eq h]

theorem requiredKeys_eq : requiredKeys node = requiredKeys node' := by
  have required := h.lookup "required"
  unfold requiredKeys
  generalize node.lookup "required" = a, node'.lookup "required" = b at required
  cases required with
  | none => rfl
  | some hr =>
    cases hr with
    | array length each =>
      exact congrArg Except.ok (filterMap_text?_eq (Rearranged.array length each).items)
    | _ => rfl

theorem choices_ok {values : Option (List String)} (ok : choices node = .ok values) :
    choices node' = .ok values := by
  have enum := h.lookup "enum"
  unfold choices at ok ⊢
  generalize node.lookup "enum" = a, node'.lookup "enum" = b at enum ok
  cases enum with
  | none => exact ok
  | some hr =>
    cases hr with
    | array length each =>
      obtain ⟨texts, read, rfl⟩ := except_map_eq_ok.1 ok
      simp only [choiceTexts_ok (Rearranged.array length each).items read]
      rfl
    | _ => cases ok

theorem propertySchemas?_rel : Option.Rel (fun properties properties' =>
    Rearranged order (.object properties) (.object properties'))
    (propertySchemas? node) (propertySchemas? node') := by
  have properties := h.lookup "properties"
  unfold propertySchemas?
  generalize node.lookup "properties" = a, node'.lookup "properties" = b at properties
  cases properties with
  | none => exact .some (.object .nil .nil (.inl rfl) fun _ _ _ h => by cases h)
  | some hr =>
    cases hr with
    | object nodup perm same values => exact .some (.object nodup perm same values)
    | _ => exact .none

theorem itemSchemas?_rel : Option.Rel (List.Forall₂ (Rearranged order)) (itemSchemas? node)
    (itemSchemas? node') := by
  have items := h.lookup "items"
  unfold itemSchemas?
  generalize node.lookup "items" = a, node'.lookup "items" = b at items
  cases items with
  | none => exact .none
  | some hr =>
    cases hr with
    | object nodup perm same values => exact .some (.cons (.object nodup perm same values) .nil)
    | array length each =>
      have items := (Rearranged.array length each).items
      cases items with
      | nil => exact .none
      | cons hr hrs => exact .some (.cons hr hrs)
    | _ => exact .none

end Keywords

/-! ## Steadiness -/

theorem kindFault?_eq_none {Q : String → Option TypeSet → Prop} {node node' : Node}
    (h : Rearranged order (.object node) (.object node')) {traits : Traits} {kind : String} {d : TypeDef}
    (hy : YieldsKind Q node traits kind d) : kindFault? node' kind = none := by
  cases hy with
  | object hr hp _ =>
    have properties := propertySchemas?_rel h
    rw [hp] at properties
    rw [requiredKeys_eq h] at hr
    cases hp' : propertySchemas? node' with
    | none =>
      rw [hp'] at properties
      cases properties
    | some _ => simp [kindFault?, hr, hp']
  | array hi _ =>
    have items := itemSchemas?_rel h
    rw [hi] at items
    cases hi' : itemSchemas? node' with
    | none =>
      rw [hi'] at items
      cases items
    | some _ => simp [kindFault?, hi']
  | string hc => simp [kindFault?, choices_ok h hc]
  | _ => rfl

/-- A rearranged node is steady as one kind if rearrangements of its parts are. -/
theorem steady_kind_of_yields {Q : String → Option TypeSet → Prop} {T : String → Prop} {node node' : Node}
    (h : Rearranged order (.object node) (.object node')) {traits traits' : Traits} {kind : String} {d : TypeDef}
    (hy : YieldsKind Q node traits kind d)
    (ih : ∀ schema p n set, sizeOf schema < sizeOf node → Yields Q (lowerNode schema p n) set →
      ∀ schema', Rearranged order schema schema' → ∀ p' n', Steady T (fun _ => False) (lowerNode schema' p' n'))
    (pointer : String) : Steady T (fun _ => False) (lowerKind node' pointer traits' kind) := by
  refine steady_lowerKind (fun reason hf => ?_) fun suffix part' part name => ?_
  · rw [kindFault?_eq_none h hy] at hf
    cases hf
  · obtain ⟨ho, properties', key, hp', he'⟩ | ⟨ha, schemas', hs', hm'⟩ := part.declared
    · cases hy with
      | object _ hp hs =>
        have rel := propertySchemas?_rel h
        rw [hp, hp'] at rel
        cases rel with
        | some rel =>
          obtain ⟨schema, he, hr⟩ := rel.of_mem he'
          obtain ⟨_, _, -, _, _, hy, -⟩ := exists_right_of_forall₂ hs he
          exact ih schema _ _ _ (sizeOf_lt_of_propertySchemas hp he) hy _ hr _ _
      | _ => exact absurd ho (by decide)
    · cases hy with
      | array hi hs =>
        have rel := itemSchemas?_rel h
        rw [hi, hs'] at rel
        cases rel with
        | some rel =>
          obtain ⟨schema, he, hr⟩ := exists_left_of_forall₂ rel hm'
          obtain ⟨_, _, _, hy⟩ := exists_right_of_forall₂ hs he
          exact ih schema _ _ _ (sizeOf_lt_of_itemSchemas hi he) hy _ hr _ _
      | _ => exact absurd ha (by decide)

/-- A document that can be lowered with some answers has rearrangements that can be lowered whatever
the answers are, and that ask for no reference that was not answered. -/
theorem steady_of_yields {T : String → Prop} (json : Json) {pointer name : String} {set : TypeSet}
    (hy : Yields (fun t _ => T t) (lowerNode json pointer name) set) {json' : Json}
    (h : Rearranged order json json') (pointer' name' : String) :
    Steady T (fun _ => False) (lowerNode json' pointer' name') := by
  -- which keywords a node has decides which faults it can end with, and `json` has ended with none
  match json, yields_lowerNode hy with
  | .object node, .reference hl hq =>
    obtain ⟨node', rfl⟩ := h.exists_object
    have hl' := h.lookup_string hl
    refine steady_lowerNode (fun target ht => ?_) (fun value hv hn => ?_) (fun hr => ?_) (fun hr => ?_)
    · rw [hl'] at ht
      cases ht
      exact hq
    · rw [hl'] at hv
      cases hv
      cases hn
    · rw [hl'] at hr
      cases hr
    · rw [hl'] at hr
      cases hr
  | .object node, .kinds hl hd hk =>
    obtain ⟨node', rfl⟩ := h.exists_object
    have hl' := h.lookup_none hl
    rw [declaredKinds_eq h] at hd
    refine steady_lowerNode (fun target ht => ?_) (fun value hv _ => ?_) (fun _ reason hr => ?_)
      (fun _ kinds' nullable' hd' kind hm traits _ => ?_)
    · rw [hl'] at ht
      cases ht
    · rw [hl'] at hv
      cases hv
    · rw [hd] at hr
      cases hr
    · rw [hd] at hd'
      cases hd'
      obtain ⟨d, -, hy⟩ := exists_right_of_forall₂ hk hm
      refine steady_kind_of_yields h hy (fun schema p n set smaller hy schema' hr p' n' => ?_) pointer'
      exact steady_of_yields schema hy hr p' n'
termination_by sizeOf json
decreasing_by
  simp only [Json.object.sizeOf_spec]
  omega

end SchemaClasses.Schema
