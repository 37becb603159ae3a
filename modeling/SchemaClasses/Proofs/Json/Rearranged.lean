/-
Documents that differ in the order of their objects' entries only. What a pointer selects in one is
the rearrangement of what it selects in the other.
-/
import SchemaClasses.Json.Pointer
import SchemaClasses.Proofs.Lists

namespace SchemaClasses.Json

/-- The keys of an object in order. -/
abbrev keys (entries : List (String × Json)) : List String := entries.map Prod.fst

/-- One document comes from the other by putting the entries of objects into another order, where the
keys of an object go from one order to another that `order` allows. -/
inductive Rearranged (order : List String → List String → Prop) : Json → Json → Prop
  | null : Rearranged order .null .null
  | bool (value : Bool) : Rearranged order (.bool value) (.bool value)
  | number (value : Json.Number) : Rearranged order (.number value) (.number value)
  | string (text : String) : Rearranged order (.string text) (.string text)
  | array {items items' : List Json} : items.length = items'.length →
      (∀ (i : Nat) (item item' : Json), items[i]? = some item → items'[i]? = some item' →
        Rearranged order item item') → Rearranged order (.array items) (.array items')
  | object {entries entries' : List (String × Json)} : (keys entries).Nodup →
      (keys entries).Perm (keys entries') →
      (keys entries = keys entries' ∨ order (keys entries) (keys entries')) →
      (∀ key value value', entries.lookup key = some value → entries'.lookup key = some value' →
        Rearranged order value value') →
      Rearranged order (.object entries) (.object entries')

variable {order : List String → List String → Prop} {json json' : Json}

theorem Rearranged.symm (h : Rearranged order json json') :
    Rearranged (fun before after => order after before) json' json := by
  induction h with
  | null => exact .null
  | bool value => exact .bool value
  | number value => exact .number value
  | string text => exact .string text
  | array length _ ih => exact .array length.symm fun i item item' h h' => ih i item' item h' h
  | object nodup perm same _ ih =>
    exact .object (perm.nodup_iff.1 nodup) perm.symm (same.imp_left Eq.symm)
      fun key value value' h h' => ih key value' value h' h

theorem Rearranged.exists_object {entries : List (String × Json)} (h : Rearranged order (.object entries) json') :
    ∃ entries', json' = .object entries' := by
  cases h
  exact ⟨_, rfl⟩

theorem Rearranged.keys_perm {entries entries' : List (String × Json)}
    (h : Rearranged order (.object entries) (.object entries')) : (keys entries).Perm (keys entries') := by
  cases h
  assumption

theorem Rearranged.keys_order {entries entries' : List (String × Json)}
    (h : Rearranged order (.object entries) (.object entries')) :
    keys entries = keys entries' ∨ order (keys entries) (keys entries') := by
  cases h
  assumption

/-! ## Parts -/

theorem Rearranged.lookup {entries entries' : List (String × Json)}
    (h : Rearranged order (.object entries) (.object entries')) (key : String) :
    Option.Rel (Rearranged order) (entries.lookup key) (entries'.lookup key) := by
  cases h with
  | object _ perm _ values =>
    -- the keys are the same, so the key is in both or in neither
    have both : (entries.lookup key).isSome ↔ (entries'.lookup key).isSome := by
      rw [isSome_lookup, isSome_lookup, perm.mem_iff]
    cases hl : entries.lookup key <;> cases hl' : entries'.lookup key
    · exact .none
    · simp [hl, hl'] at both
    · simp [hl, hl'] at both
    · exact .some (values key _ _ hl hl')

theorem Rearranged.of_mem_of_mem {entries entries' : List (String × Json)}
    (h : Rearranged order (.object entries) (.object entries')) {key : String} {value value' : Json}
    (hm : (key, value) ∈ entries) (hm' : (key, value') ∈ entries') : Rearranged order value value' := by
  cases h with
  | object nodup perm same values =>
    exact values key value value' (lookup_of_mem nodup hm) (lookup_of_mem (perm.nodup_iff.1 nodup) hm')

theorem Rearranged.of_mem {entries entries' : List (String × Json)}
    (h : Rearranged order (.object entries) (.object entries')) {key : String} {value' : Json}
    (hm : (key, value') ∈ entries') : ∃ value, (key, value) ∈ entries ∧ Rearranged order value value' := by
  cases h with
  | object nodup perm same values =>
    have hl := lookup_of_mem (perm.nodup_iff.1 nodup) hm
    have hk : (entries.lookup key).isSome := by
      rw [isSome_lookup, perm.mem_iff, ← isSome_lookup, hl]
      rfl
    obtain ⟨value, hv⟩ := Option.isSome_iff_exists.1 hk
    exact ⟨value, mem_of_lookup hv, values key value value' hv hl⟩

theorem Rearranged.lookup_string {entries entries' : List (String × Json)}
    (h : Rearranged order (.object entries) (.object entries')) {key text : String}
    (hl : entries.lookup key = some (.string text)) : entries'.lookup key = some (.string text) := by
  have hr := h.lookup key
  rw [hl] at hr
  generalize entries'.lookup key = found at hr
  cases hr with
  | some hr =>
    cases hr
    rfl

theorem Rearranged.lookup_none {entries entries' : List (String × Json)}
    (h : Rearranged order (.object entries) (.object entries')) {key : String}
    (hl : entries.lookup key = none) : entries'.lookup key = none := by
  have hr := h.lookup key
  rw [hl] at hr
  generalize entries'.lookup key = found at hr
  cases hr
  rfl

theorem Rearranged.items {items items' : List Json}
    (h : Rearranged order (.array items) (.array items')) : List.Forall₂ (Rearranged order) items items' := by
  cases h with
  | array length each =>
    refine List.forall₂_iff_get.2 ⟨length, fun i h h' => each i _ _ ?_ ?_⟩
    · exact List.getElem?_eq_getElem h
    · exact List.getElem?_eq_getElem h'

theorem Rearranged.text?_eq (h : Rearranged order json json') : json.text? = json'.text? := by
  cases h <;> rfl

theorem bind_text?_eq {value value' : Option Json} (h : Option.Rel (Rearranged order) value value') :
    value.bind Json.text? = value'.bind Json.text? := by
  cases h with
  | none => rfl
  | some h => exact h.text?_eq

/-! ## Selection -/

theorem Rearranged.step (h : Rearranged order json json') (token : List Char) :
    Option.Rel (Rearranged order) (json.step? token) (json'.step? token) := by
  cases h with
  | object nodup perm same values =>
    exact Rearranged.lookup (.object nodup perm same values) (String.ofList token)
  | @array items items' length each =>
    unfold step?
    cases position? token with
    | none => exact .none
    | some i =>
      simp only [Option.bind_some]
      by_cases hi : i < items.length
      · have hi' : i < items'.length := length ▸ hi
        rw [List.getElem?_eq_getElem hi, List.getElem?_eq_getElem hi']
        exact .some (each i _ _ (List.getElem?_eq_getElem hi) (List.getElem?_eq_getElem hi'))
      · rw [List.getElem?_eq_none (by omega), List.getElem?_eq_none (by omega)]
        exact .none
  | _ => exact .none

theorem Rearranged.follow : ∀ {json json' : Json} (tokens : List (List Char)), Rearranged order json json' →
    Option.Rel (Rearranged order) (json.follow? tokens) (json'.follow? tokens)
  | _, _, [], h => .some h
  | json, json', token :: rest, h => by
    have hs := h.step token
    unfold follow?
    cases he : json.step? token <;> cases he' : json'.step? token <;> rw [he, he'] at hs <;> cases hs
    · exact .none
    · rename_i hs
      exact follow rest hs

theorem Rearranged.select (h : Rearranged order json json') (pointer : String) :
    Option.Rel (Rearranged order) (json.select? pointer) (json'.select? pointer) := by
  unfold select?
  cases pointerTokens? pointer with
  | none => exact .none
  | some tokens => exact h.follow tokens

/-! ## Permuted entries -/

mutual

/-- Every key of every object occurs once. -/
def distinctKeys : Json → Bool
  | .array items => distinctKeysOfItems items
  | .object entries => decide (keys entries).Nodup && distinctKeysOfEntries entries
  | _ => true

/-- Every key of every object in the items of an array occurs once. -/
def distinctKeysOfItems : List Json → Bool
  | [] => true
  | item :: rest => distinctKeys item && distinctKeysOfItems rest

/-- Every key of every object in the values of entries occurs once. -/
def distinctKeysOfEntries : List (String × Json) → Bool
  | [] => true
  | (_, value) :: rest => distinctKeys value && distinctKeysOfEntries rest

end

theorem distinctKeys_of_mem_items {item : Json} : ∀ {items : List Json}, distinctKeysOfItems items = true →
    item ∈ items → item.distinctKeys = true
  | head :: rest, h, hm => by
    obtain ⟨hh, hr⟩ := Bool.and_eq_true_iff.1 h
    rcases List.mem_cons.1 hm with rfl | hm
    · exact hh
    · exact distinctKeys_of_mem_items hr hm

theorem distinctKeys_of_mem_entries {key : String} {value : Json} : ∀ {entries : List (String × Json)},
    distinctKeysOfEntries entries = true → (key, value) ∈ entries → value.distinctKeys = true
  | (_, head) :: rest, h, hm => by
    obtain ⟨hh, hr⟩ := Bool.and_eq_true_iff.1 h
    rcases List.mem_cons.1 hm with hm | hm
    · cases hm
      exact hh
    · exact distinctKeys_of_mem_entries hr hm

/-- A document with distinct keys is a rearrangement of itself. -/
theorem Rearranged.refl (json : Json) (h : json.distinctKeys = true) : Rearranged order json json := by
  match json with
  | .null => exact .null
  | .bool value => exact .bool value
  | .number value => exact .number value
  | .string text => exact .string text
  | .array items =>
    refine .array rfl fun i item item' hi hi' => ?_
    rw [hi] at hi'
    cases hi'
    have hm := List.mem_of_getElem? hi
    have := List.sizeOf_lt_of_mem hm
    exact refl item (distinctKeys_of_mem_items h hm)
  | .object entries =>
    obtain ⟨hn, he⟩ := Bool.and_eq_true_iff.1 h
    refine .object (of_decide_eq_true hn) (.refl _) (.inl rfl) fun key value value' hl hl' => ?_
    rw [hl] at hl'
    cases hl'
    have hm := mem_of_lookup hl
    have := List.sizeOf_lt_of_mem hm
    exact refl value (distinctKeys_of_mem_entries he hm)
termination_by sizeOf json
decreasing_by
  all_goals
    simp only [Json.object.sizeOf_spec, Json.array.sizeOf_spec, Prod.mk.sizeOf_spec] at *
    omega

/-- Permuting the entries of an object is a rearrangement. -/
theorem Rearranged.permute {entries entries' : List (String × Json)}
    (h : (Json.object entries).distinctKeys = true) (perm : entries.Perm entries')
    (allowed : order (keys entries) (keys entries')) : Rearranged order (.object entries) (.object entries') := by
  obtain ⟨hn, he⟩ := Bool.and_eq_true_iff.1 h
  have nodup := of_decide_eq_true hn
  refine .object nodup (perm.map _) (.inr allowed) fun key value value' hl hl' => ?_
  rw [lookup_of_mem nodup (perm.mem_iff.2 (mem_of_lookup hl'))] at hl
  cases hl
  exact .refl value (distinctKeys_of_mem_entries he (perm.mem_iff.2 (mem_of_lookup hl')))

/-- Rearranging the values of an object, each where it is, is a rearrangement. -/
theorem Rearranged.values {entries entries' : List (String × Json)} (nodup : (keys entries).Nodup)
    (h : List.Forall₂ (fun entry entry' => entry.1 = entry'.1 ∧ Rearranged order entry.2 entry'.2)
      entries entries') : Rearranged order (.object entries) (.object entries') := by
  have same : keys entries = keys entries' := by
    clear nodup
    induction h with
    | nil => rfl
    | cons hr _ ih => exact congrArg₂ List.cons hr.1 ih
  refine .object nodup (same ▸ .refl _) (.inl same) fun key value value' hl hl' => ?_
  obtain ⟨⟨_, found⟩, hm, hk, hr⟩ := exists_left_of_forall₂ h (mem_of_lookup hl')
  cases hk
  rw [lookup_of_mem nodup hm] at hl
  cases hl
  exact hr

end SchemaClasses.Json
