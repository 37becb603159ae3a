/-
Lists that correspond entry by entry, and look-up in lists of pairs.
-/
import Mathlib.Data.List.Forall2

namespace SchemaClasses

variable {α β : Type} {R : α → β → Prop} {l : List α} {l' : List β}

theorem exists_left_of_forall₂ (h : List.Forall₂ R l l') {b : β} (hb : b ∈ l') : ∃ a ∈ l, R a b := by
  induction h with
  | nil => cases hb
  | cons hr _ ih =>
    rcases List.mem_cons.1 hb with rfl | hb
    · exact ⟨_, List.mem_cons_self, hr⟩
    · obtain ⟨a, ha, hr⟩ := ih hb
      exact ⟨a, List.mem_cons_of_mem _ ha, hr⟩

theorem exists_right_of_forall₂ (h : List.Forall₂ R l l') {a : α} (ha : a ∈ l) : ∃ b ∈ l', R a b :=
  exists_left_of_forall₂ h.flip ha

theorem forall₂_comp {γ : Type} {S : β → γ → Prop} (h : List.Forall₂ R l l') {l'' : List γ}
    (h' : List.Forall₂ S l' l'') : List.Forall₂ (fun a c => ∃ b, R a b ∧ S b c) l l'' := by
  induction h generalizing l'' with
  | nil =>
    cases h'
    exact .nil
  | cons hr _ ih =>
    cases h' with
    | cons hs h' => exact .cons ⟨_, hr, hs⟩ (ih h')

/-- What corresponds to the same list corresponds to each other. -/
theorem forall₂_join {γ : Type} {S : α → γ → Prop} {T : β → γ → Prop} (h : List.Forall₂ R l l')
    {l'' : List γ} (h' : List.Forall₂ S l l'') (join : ∀ a ∈ l, ∀ b c, R a b → S a c → T b c) :
    List.Forall₂ T l' l'' := by
  induction h generalizing l'' with
  | nil =>
    cases h'
    exact .nil
  | cons hr _ ih =>
    cases h' with
    | cons hs h' =>
      exact .cons (join _ List.mem_cons_self _ _ hr hs)
        (ih h' fun a ha => join a (List.mem_cons_of_mem _ ha))

/-- What is found first corresponds, if corresponding entries pass the test together. -/
theorem find?_of_forall₂ {p : α → Bool} {q : β → Bool} (h : List.Forall₂ R l l')
    (together : ∀ a b, R a b → p a = q b) {a : α} (ha : l.find? p = some a) :
    ∃ b, l'.find? q = some b ∧ R a b := by
  induction h with
  | nil => cases ha
  | @cons head head' rest rest' hr _ ih =>
    rw [List.find?_cons] at ha ⊢
    rw [← together head head' hr]
    split at ha
    · cases ha
      exact ⟨head', rfl, hr⟩
    · exact ih ha

theorem isSome_lookup {table : List (String × β)} {k : String} :
    (table.lookup k).isSome ↔ k ∈ table.map Prod.fst := by
  simp [List.lookup_isSome_iff]

theorem lookup_cons_some {κ : Type} [BEq κ] [LawfulBEq κ] {k t : κ} {v a : β} {table : List (κ × β)}
    (h : ((k, v) :: table).lookup t = some a) : t = k ∧ v = a ∨ table.lookup t = some a := by
  rw [List.lookup_cons] at h
  split at h
  · rename_i he
    cases h
    exact .inl ⟨beq_iff_eq.1 he, rfl⟩
  · exact .inr h

theorem mem_of_lookup {κ : Type} [BEq κ] [LawfulBEq κ] {k : κ} {v : β} {table : List (κ × β)}
    (h : table.lookup k = some v) :
    (k, v) ∈ table := by
  induction table with
  | nil => cases h
  | cons entry rest ih =>
    obtain ⟨k', v'⟩ := entry
    rcases lookup_cons_some h with ⟨rfl, rfl⟩ | h
    · exact List.mem_cons_self
    · exact List.mem_cons_of_mem _ (ih h)

theorem lookup_of_mem {k : String} {v : β} {table : List (String × β)} (nodup : (table.map Prod.fst).Nodup)
    (h : (k, v) ∈ table) : table.lookup k = some v := by
  induction table with
  | nil => cases h
  | cons entry rest ih =>
    obtain ⟨fresh, nodup⟩ := List.nodup_cons.1 nodup
    rcases List.mem_cons.1 h with rfl | h
    · exact List.lookup_cons_self
    · have : k ≠ entry.1 := by
        rintro rfl
        exact fresh (List.mem_map.2 ⟨_, h, rfl⟩)
      rw [List.lookup_cons, beq_eq_false_iff_ne.2 this]
      exact ih nodup h

end SchemaClasses
