/-
Laws of named entries: names stay distinct, what an operation does is seen through look-up, and
collections with the same entries are permutations of each other.
-/
import SchemaClasses.Entries
import SchemaClasses.Proofs.Lists
import Mathlib.Data.List.Induction
import Mathlib.Data.List.Nodup
import Mathlib.Data.List.Perm.Subperm

namespace SchemaClasses.Entries

variable {α : Type} {entries : Entries α} {name other : String} {value : α}

/-- Every name occurs once. -/
def Distinct (entries : Entries α) : Prop := entries.names.Nodup

/-! ## Look-up -/

theorem hasName_of_at? (h : entries.at? name = some value) : entries.hasName name = true := by
  rw [hasName, h]
  rfl

theorem mem_of_at? (h : entries.at? name = some value) : (name, value) ∈ entries := mem_of_lookup h

theorem at?_of_mem (hd : entries.Distinct) (h : (name, value) ∈ entries) : entries.at? name = some value :=
  lookup_of_mem hd h

theorem mem_values_of_at? (h : entries.at? name = some value) : value ∈ entries.values :=
  List.mem_map.2 ⟨_, mem_of_at? h, rfl⟩

theorem mem_values_iff (hd : entries.Distinct) : value ∈ entries.values ↔ ∃ name, entries.at? name = some value := by
  constructor
  · intro h
    obtain ⟨⟨name, _⟩, hm, rfl⟩ := List.mem_map.1 h
    exact ⟨name, at?_of_mem hd hm⟩
  · rintro ⟨name, h⟩
    exact mem_values_of_at? h

/-! ## Operations -/

theorem hasName_put : (entries.put name value).hasName other = (other == name || entries.hasName other) := by
  unfold hasName
  rw [at?_put]
  by_cases h : other = name <;> simp [h]

theorem names_put : (entries.put name value).names =
    if name ∈ entries.names then entries.names else entries.names ++ [name] := by
  induction entries with
  | nil => rfl
  | cons entry rest ih =>
    obtain ⟨n, v⟩ := entry
    unfold put
    by_cases h : n = name
    · subst h
      simp [names]
    · have h' : ¬ name = n := fun e => h e.symm
      simp only [h, if_false]
      unfold names at ih ⊢
      rw [List.map_cons, ih]
      by_cases hm : name ∈ rest.map Prod.fst <;> simp [hm, h']

/-- The entries under other names stay as they are. -/
theorem filter_put {keep : String × α → Bool} (dropped : ∀ value, keep (name, value) = false) :
    (entries.put name value).filter keep = entries.filter keep := by
  induction entries with
  | nil => exact List.filter_cons_of_neg (by simp [dropped])
  | cons entry rest ih =>
    obtain ⟨n, v⟩ := entry
    unfold put
    split
    · rename_i he
      subst he
      simp [dropped]
    · simp only [List.filter_cons, ih]

theorem put_ne_nil (entries : Entries α) (name : String) (value : α) : entries.put name value ≠ [] := by
  cases entries with
  | nil => exact List.cons_ne_nil _ _
  | cons entry rest =>
    unfold put
    split
    · exact List.cons_ne_nil _ _
    · exact List.cons_ne_nil _ _

theorem mem_values_put_self (entries : Entries α) (name : String) (value : α) :
    value ∈ (entries.put name value).values :=
  mem_values_of_at? (show (entries.put name value).at? name = some value by rw [at?_put, if_pos rfl])

theorem mem_values_put {found : α} (h : found ∈ (entries.put name value).values) :
    found = value ∨ found ∈ entries.values := by
  unfold values at *
  induction entries with
  | nil => exact .inl (List.mem_singleton.1 h)
  | cons entry rest ih =>
    unfold put at h
    split at h
    · exact (List.mem_cons.1 h).imp_right (List.mem_cons_of_mem _)
    · rcases List.mem_cons.1 h with rfl | h
      · exact .inr List.mem_cons_self
      · exact (ih h).imp_right (List.mem_cons_of_mem _)

theorem Distinct.put (h : entries.Distinct) : (entries.put name value).Distinct := by
  unfold Distinct at *
  rw [names_put]
  split
  · exact h
  · rename_i hn
    exact List.nodup_append.2 ⟨h, List.nodup_singleton _, fun a ha b hb => by
      rw [List.mem_singleton.1 hb]
      exact fun e => hn (e ▸ ha)⟩

theorem distinct_nil : Distinct ([] : Entries α) := List.nodup_nil

theorem names_adjust {change : α → α} : (entries.adjust name change).names = entries.names := by
  unfold names adjust
  rw [List.map_map]
  apply List.map_congr_left
  intro entry _
  simp only [Function.comp]
  split <;> rfl

theorem at?_adjust {change : α → α} : (entries.adjust name change).at? other =
    if other = name then (entries.at? other).map change else entries.at? other := by
  induction entries with
  | nil => simp [adjust]
  | cons entry rest ih =>
    obtain ⟨n, v⟩ := entry
    unfold adjust at ih ⊢
    rw [List.map_cons]
    by_cases hn : n = name
    · subst hn
      by_cases ho : other = n <;> simp [ho, ih]
    · by_cases ho : other = n
      · subst ho
        simp [hn]
      · simp [hn, ho, ih]

theorem at?_map {change : α → α} :
    at? (entries.map fun entry => (entry.1, change entry.2)) name = (entries.at? name).map change := by
  induction entries with
  | nil => rfl
  | cons entry rest ih =>
    obtain ⟨n, v⟩ := entry
    rw [List.map_cons, at?_cons, at?_cons, ih]
    split <;> rfl

theorem map_put {change : α → α} : (entries.put name value).map (fun entry => (entry.1, change entry.2)) =
    put (entries.map fun entry => (entry.1, change entry.2)) name (change value) := by
  induction entries with
  | nil => rfl
  | cons entry rest ih =>
    obtain ⟨n, v⟩ := entry
    rw [List.map_cons, put, put]
    by_cases hn : n = name
    · simp [hn]
    · simp only [hn, if_false, List.map_cons]
      rw [ih]

theorem names_map {change : α → α} :
    names (entries.map fun entry => (entry.1, change entry.2)) = entries.names := by
  unfold names
  rw [List.map_map]
  rfl

theorem put_of_at? (h : entries.at? name = some value) : entries.put name value = entries := by
  induction entries with
  | nil => cases h
  | cons entry rest ih =>
    obtain ⟨n, v⟩ := entry
    rw [at?_cons] at h
    unfold Entries.put
    split
    · rename_i he
      rw [if_pos he.symm] at h
      rw [← he, Option.some.inj h]
    · rename_i hn
      rw [if_neg fun he => hn he.symm] at h
      rw [ih h]

theorem at?_eq_none_iff : entries.at? name = none ↔ name ∉ entries.names := by
  rw [← Option.not_isSome_iff_eq_none, not_iff_not]
  exact isSome_lookup

/-- The names in order and what stands under them are all there is. -/
theorem eq_of_at? {a b : Entries α} (hd : a.Distinct) (names : a.names = b.names)
    (h : ∀ name, a.at? name = b.at? name) : a = b := by
  induction a generalizing b with
  | nil => exact (List.map_eq_nil_iff.1 names.symm).symm
  | cons entry rest ih =>
    obtain ⟨n, v⟩ := entry
    cases b with
    | nil => cases names
    | cons entry' rest' =>
      obtain ⟨n', v'⟩ := entry'
      obtain ⟨same, others⟩ := List.cons.inj names
      obtain rfl : n = n' := same
      have others : Entries.names rest = Entries.names rest' := others
      obtain ⟨fresh, hd⟩ := List.nodup_cons.1 hd
      have first := h n
      simp only [at?_cons, if_true, Option.some.injEq] at first
      subst first
      refine congrArg _ (ih hd others fun name => ?_)
      by_cases hn : name = n
      -- the name at the front comes in neither rest
      · subst hn
        rw [at?_eq_none_iff.2 fresh, at?_eq_none_iff.2 (others ▸ fresh)]
      · have := h name
        simpa [hn] using this

/-! ## Values under their own names -/

/-- Every value stands under its own name. -/
def Own (nameOf : α → String) (entries : Entries α) : Prop := ∀ entry ∈ entries, nameOf entry.2 = entry.1

theorem own_nil {nameOf : α → String} : Own nameOf ([] : Entries α) := fun _ h => by cases h

theorem Own.at? {nameOf : α → String} (h : entries.Own nameOf) (hv : entries.at? name = some value) :
    nameOf value = name :=
  h _ (mem_of_at? hv)

theorem Own.put {nameOf : α → String} (h : entries.Own nameOf) (value : α) :
    (entries.put (nameOf value) value).Own nameOf := by
  unfold Own at *
  induction entries with
  | nil => exact fun entry he => List.mem_singleton.1 he ▸ rfl
  | cons first rest ih =>
    obtain ⟨first_own, rest_own⟩ := List.forall_mem_cons.1 h
    unfold Entries.put
    split
    · exact List.forall_mem_cons.2 ⟨rfl, rest_own⟩
    · exact List.forall_mem_cons.2 ⟨first_own, ih rest_own⟩

theorem Own.perm {nameOf : α → String} {a b : Entries α} (h : a.Own nameOf) (perm : a.Perm b) : b.Own nameOf :=
  fun entry he => h entry (perm.mem_iff.2 he)

theorem Own.names_eq {nameOf : α → String} (h : entries.Own nameOf) : entries.values.map nameOf = entries.names := by
  unfold values names
  rw [List.map_map]
  exact List.map_congr_left h

/-! ## The same entries -/

theorem at?_of_sameEntries [BEq α] [LawfulBEq α] {a b : Entries α} (same : a.sameEntries b = true)
    (h : a.at? name = some value) : b.at? name = some value := by
  unfold sameEntries at same
  rw [Bool.and_eq_true, List.all_eq_true] at same
  have found := same.2 _ (mem_of_at? h)
  simp only at found
  split at found
  · rename_i other ho
    rw [ho, beq_iff_eq.1 found]
  · cases found

theorem perm_of_sameEntries [BEq α] [LawfulBEq α] {a b : Entries α} (hd : a.Distinct)
    (h : a.sameEntries b = true) : a.Perm b := by
  unfold sameEntries at h
  rw [Bool.and_eq_true, beq_iff_eq, List.all_eq_true] at h
  obtain ⟨length, all⟩ := h
  -- names are distinct in `a` and the lengths are the same, so that being among `b` is enough
  have sub : a ⊆ b := by
    intro entry hm
    have he := all entry hm
    split at he
    · rename_i found hl
      obtain ⟨n, v⟩ := entry
      rw [beq_iff_eq] at he
      subst he
      exact mem_of_at? hl
    · cases he
  exact ((List.Nodup.of_map _ hd).subperm sub).perm_of_length_le (Nat.le_of_eq length.symm)

theorem Distinct.perm {a b : Entries α} (hd : a.Distinct) (h : a.Perm b) : b.Distinct :=
  ((h.map Prod.fst).nodup_iff).1 hd

theorem at?_perm {a b : Entries α} (hd : a.Distinct) (h : a.Perm b) : a.at? name = b.at? name := by
  cases hv : b.at? name with
  | some v => exact at?_of_mem hd (h.mem_iff.2 (mem_of_at? hv))
  | none =>
    cases hv' : a.at? name with
    | none => rfl
    | some v =>
      -- an entry of `a` alone would be one of `b`
      have := at?_of_mem (hd.perm h) (h.mem_iff.1 (mem_of_at? hv'))
      rw [hv] at this
      cases this

theorem perm_of_at? {a b : Entries α} (ha : a.Distinct) (hb : b.Distinct) (h : ∀ name, a.at? name = b.at? name) :
    a.Perm b := by
  refine (List.perm_ext_iff_of_nodup (.of_map _ ha) (.of_map _ hb)).2 fun ⟨name, value⟩ =>
    ⟨fun hm => ?_, fun hm => ?_⟩
  · exact mem_of_at? ((h name).symm.trans (at?_of_mem ha hm))
  · exact mem_of_at? ((h name).trans (at?_of_mem hb hm))

theorem Distinct.perm_put {a b : Entries α} (hd : a.Distinct) (h : a.Perm b) :
    (a.put name value).Perm (b.put name value) :=
  perm_of_at? hd.put (hd.perm h).put fun other => by rw [at?_put, at?_put, at?_perm hd h]

theorem sameEntries_of_perm [BEq α] [LawfulBEq α] {a b : Entries α} (hd : a.Distinct) (h : a.Perm b) :
    a.sameEntries b = true := by
  unfold sameEntries
  rw [Bool.and_eq_true, beq_iff_eq, List.all_eq_true]
  refine ⟨h.length_eq, fun ⟨name, value⟩ hm => ?_⟩
  simp only
  rw [← at?_perm hd h, at?_of_mem hd hm]
  exact beq_self_eq_true value

/-! ## Entries from pairs -/

theorem ofPairs_concat (pairs : List (String × α)) (pair : String × α) :
    ofPairs (pairs ++ [pair]) = (ofPairs pairs).put pair.1 pair.2 := by
  rw [ofPairs, List.foldl_append]
  rfl

/-- The names stand in the order in which they first came. -/
theorem names_ofPairs (pairs : List (String × α)) : (ofPairs pairs).names = (pairs.map Prod.fst).eraseDups := by
  induction pairs using List.reverseRecOn with
  | nil => rfl
  | append_singleton pairs pair ih =>
    rw [ofPairs_concat, names_put, ih, List.map_append, List.eraseDups_append]
    by_cases known : pair.1 ∈ (pairs.map Prod.fst).eraseDups
    · have none : ([pair].map Prod.fst).removeAll (pairs.map Prod.fst) = [] := by
        simpa [List.removeAll] using List.mem_eraseDups.1 known
      rw [if_pos known, none, List.eraseDups_nil, List.append_nil]
    · have fresh : ([pair].map Prod.fst).removeAll (pairs.map Prod.fst) = [pair.1] := by
        simpa [List.removeAll] using fun hm => known (List.mem_eraseDups.2 hm)
      rw [if_neg known, fresh]
      rfl

/-- Under each name stands the value that came last, be it there before or among the pairs. -/
theorem at?_foldl_put : ∀ (pairs : List (String × α)) (entries : Entries α),
    (pairs.foldl (fun entries pair => entries.put pair.1 pair.2) entries).at? name =
      (at? pairs.reverse name).or (entries.at? name)
  | [], _ => rfl
  | pair :: rest, entries => by
    have appended : at? (rest.reverse ++ [pair]) name = (at? rest.reverse name).or (at? [pair] name) :=
      List.lookup_append
    rw [List.foldl_cons, at?_foldl_put rest, at?_put, List.reverse_cons, appended, Option.or_assoc, at?_cons]
    split <;> rfl

theorem at?_ofPairs (pairs : List (String × α)) : (ofPairs pairs).at? name = at? pairs.reverse name :=
  (at?_foldl_put pairs []).trans (Option.or_none ..)

/-- What came last under a name, found among what the pairs were made from. -/
theorem at?_ofPairs_map {β : Type} (key : β → String) (make : β → α) (l : List β) :
    (ofPairs (l.map fun b => (key b, make b))).at? name = (l.reverse.find? (key · == name)).map make := by
  rw [at?_ofPairs, ← List.map_reverse]
  induction l.reverse with
  | nil => rfl
  | cons first rest ih =>
    rw [List.map_cons, at?_cons, List.find?_cons, ih]
    by_cases h : name = key first
    · rw [if_pos h, beq_iff_eq.2 h.symm]
      rfl
    · rw [if_neg h, beq_eq_false_iff_ne.2 fun he => h he.symm]

theorem distinct_ofPairs (pairs : List (String × α)) : (ofPairs pairs).Distinct := by
  induction pairs using List.reverseRecOn with
  | nil => exact distinct_nil
  | append_singleton pairs pair ih =>
    rw [ofPairs_concat]
    exact ih.put

theorem mem_of_mem_ofPairs {pairs : List (String × α)} {entry : String × α} (h : entry ∈ ofPairs pairs) :
    entry ∈ pairs := by
  have last := at?_of_mem (distinct_ofPairs pairs) h
  rw [at?_ofPairs] at last
  exact List.mem_reverse.1 (mem_of_at? last)

theorem eraseDups_of_nodup : ∀ {names : List String}, names.Nodup → names.eraseDups = names
  | [], _ => rfl
  | first :: rest, h => by
    obtain ⟨fresh, h⟩ := List.nodup_cons.1 h
    have kept : rest.filter (fun other => !other == first) = rest := by
      rw [List.filter_eq_self]
      intro other hm
      rw [Bool.not_eq_true', beq_eq_false_iff_ne]
      rintro rfl
      exact fresh hm
    rw [List.eraseDups_cons, kept, eraseDups_of_nodup h]

/-- Nothing is lost of pairs with distinct names. -/
theorem ofPairs_of_distinct {pairs : List (String × α)} (h : Distinct pairs) : ofPairs pairs = pairs := by
  refine eq_of_at? (distinct_ofPairs pairs) ?_ fun name => ?_
  · rw [names_ofPairs]
    exact eraseDups_of_nodup h
  · rw [at?_ofPairs]
    exact (at?_perm h (List.reverse_perm pairs).symm).symm

/-! ## Entries behind others -/

/-- A name that is not there is put among the entries behind. -/
theorem append_put (fresh : name ∉ entries.names) (behind : Entries α) :
    put (entries ++ behind) name value = entries ++ put behind name value := by
  induction entries with
  | nil => rfl
  | cons entry rest ih =>
    obtain ⟨other, fresh⟩ := not_or.1 (fresh ∘ List.mem_cons.2)
    rw [List.cons_append, put, if_neg fun he => other he.symm, ih fresh]
    rfl

/-- Values under names that are not there stand behind what is there. -/
theorem foldl_put_of_fresh {pairs : List (String × α)} (fresh : ∀ pair ∈ pairs, pair.1 ∉ entries.names) :
    pairs.foldl (fun entries pair => entries.put pair.1 pair.2) entries = entries ++ ofPairs pairs := by
  induction pairs using List.reverseRecOn with
  | nil => exact (List.append_nil entries).symm
  | append_singleton pairs pair ih =>
    obtain ⟨before, last⟩ := List.forall_mem_append.1 fresh
    rw [List.foldl_append, ih before, ofPairs_concat, List.foldl_cons, List.foldl_nil,
      append_put (last pair List.mem_cons_self)]

/-! ## Entries side by side -/

/-- The same names in the same order, with related values. -/
def Beside {β : Type} (R : α → β → Prop) (a : Entries α) (b : Entries β) : Prop :=
  List.Forall₂ (fun entry entry' => entry.1 = entry'.1 ∧ R entry.2 entry'.2) a b

section Beside

variable {β : Type} {R : α → β → Prop} {a : Entries α} {b : Entries β}

theorem Beside.put (h : Beside R a b) {value' : β} (hv : R value value') :
    Beside R (a.put name value) (b.put name value') := by
  induction h with
  | nil => exact .cons ⟨rfl, hv⟩ .nil
  | @cons entry entry' rest rest' first others ih =>
    unfold Entries.put
    rw [← first.1]
    split
    · exact .cons ⟨rfl, hv⟩ others
    · exact .cons ⟨rfl, first.2⟩ ih

theorem Beside.hasName_eq (h : Beside R a b) (name : String) : b.hasName name = a.hasName name := by
  induction h with
  | nil => rfl
  | @cons entry entry' rest rest' first others ih =>
    unfold hasName at ih ⊢
    rw [at?_cons, at?_cons, ← first.1]
    split
    · rfl
    · exact ih

theorem Beside.values (h : Beside R a b) : List.Forall₂ R a.values b.values := by
  unfold Entries.values
  rw [List.forall₂_map_left_iff, List.forall₂_map_right_iff]
  exact h.imp fun _ _ entry => entry.2

theorem Beside.imp {S : α → β → Prop} (h : Beside R a b) (imp : ∀ value value', R value value' → S value value') :
    Beside S a b :=
  List.Forall₂.imp (fun _ _ entry => ⟨entry.1, imp _ _ entry.2⟩) h

theorem Beside.map {γ δ : Type} {S : γ → δ → Prop} {f : α → γ} {f' : β → δ} (h : Beside R a b)
    (both : ∀ value value', R value value' → S (f value) (f' value')) :
    Beside S (List.map (fun entry => (entry.1, f entry.2)) a) (List.map (fun entry => (entry.1, f' entry.2)) b) := by
  unfold Beside
  rw [List.forall₂_map_left_iff, List.forall₂_map_right_iff]
  exact List.Forall₂.imp (fun _ _ entry => ⟨entry.1, both _ _ entry.2⟩) h

theorem beside_self {S : α → α → Prop} (h : ∀ value ∈ a.values, S value value) : Beside S a a :=
  List.forall₂_same.2 fun entry he => ⟨rfl, h entry.2 (List.mem_map.2 ⟨entry, he, rfl⟩)⟩

end Beside

end SchemaClasses.Entries
