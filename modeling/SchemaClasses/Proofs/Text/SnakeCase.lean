/-
Names in small letters with underscores. No capital of ASCII is the lower case of a character, and no word has a
separator in it, so that a name in `snake_case` has no such capital and begins with no underscore.
-/
import SchemaClasses.Proofs.Names

namespace SchemaClasses

open Text

variable {mark c : Char} {cs : List Char}

/-! ## Words without separators -/

theorem not_isSeparator_of_mem_wordsAfter : ∀ (cs : List Char) (left : Option Char) (word : List Char)
    {found : List Char}, (∀ c ∈ word, isSeparator c = false) → found ∈ wordsAfter left word cs → c ∈ found →
    isSeparator c = false
  | [], _, _, _, hw, hf, hc => hw _ (List.mem_singleton.1 hf ▸ hc)
  | next :: rest, left, word, found, hw, hf, hc => by
    unfold wordsAfter at hf
    split at hf
    · rcases List.mem_cons.1 hf with rfl | hf
      · exact hw _ hc
      · exact not_isSeparator_of_mem_wordsAfter rest _ _ (fun _ h => by cases h) hf hc
    · rename_i inWord
      have own : isSeparator next = false := Bool.eq_false_iff.2 inWord
      split at hf
      · rcases List.mem_cons.1 hf with rfl | hf
        · exact hw _ hc
        · exact not_isSeparator_of_mem_wordsAfter rest _ _ (List.forall_mem_singleton.2 own) hf hc
      · refine not_isSeparator_of_mem_wordsAfter rest _ _ (fun c h => ?_) hf hc
        rcases List.mem_append.1 h with h | h
        · exact hw c h
        · exact List.mem_singleton.1 h ▸ own

theorem not_isSeparator_of_mem_words {word : List Char} (hw : word ∈ words cs) (hc : c ∈ word) :
    isSeparator c = false :=
  not_isSeparator_of_mem_wordsAfter cs none [] (fun _ h => by cases h) (List.mem_filter.1 hw).1 hc

theorem ne_nil_of_mem_words {word : List Char} (hw : word ∈ words cs) : word ≠ [] := by
  have kept := (List.mem_filter.1 hw).2
  rintro rfl
  cases kept

/-! ## Words in another case -/

/-- No character is left without a case if none of the expansions is empty. -/
theorem mapCase_ne_nil {expansions : List (Nat × List Nat)} {runs : List CaseRun}
    (filled : ∀ entry ∈ expansions, entry.2 ≠ []) (c : Char) : mapCase expansions runs c ≠ [] := by
  unfold mapCase
  split
  · rename_i codes hl
    exact fun none => filled _ (mem_of_lookup hl) (List.map_eq_nil_iff.1 none)
  · split
    · exact List.cons_ne_nil _ _
    · exact List.cons_ne_nil _ _

theorem lowerChar_ne_nil (c : Char) : lowerChar c ≠ [] := by
  unfold lowerChar
  split
  · exact List.cons_ne_nil _ _
  · exact mapCase_ne_nil (by decide) c

theorem upperChar_ne_nil (c : Char) : upperChar c ≠ [] := by
  unfold upperChar
  split
  · exact List.cons_ne_nil _ _
  · exact mapCase_ne_nil (by decide) c

theorem lowerText_ne_nil {word : List Char} (h : word ≠ []) : lowerText word ≠ [] := by
  cases word with
  | nil => exact absurd rfl h
  | cons first rest =>
    show lowerFrom [] (first :: rest) ≠ []
    unfold lowerFrom
    simp only
    split
    · split
      · exact List.cons_ne_nil _ _
      · exact List.cons_ne_nil _ _
    · exact fun none => lowerChar_ne_nil first (List.append_eq_nil_iff.1 none).1

theorem underscore_not_mem_lowerText {word : List Char} (hw : word ∈ words cs) : '_' ∉ lowerText word := by
  intro h
  obtain ⟨c, hc, low⟩ := exists_of_mem_lowerFrom (by decide) word [] h
  have own : c = '_' := eq_of_mem_lowerChar (by decide) (by decide) (by decide +kernel) low
  have separator := not_isSeparator_of_mem_words hw (own ▸ hc)
  cases separator

/-! ## Snake case -/

theorem mem_intercalate {sep : List Char} : ∀ {parts : List (List Char)}, c ∈ sep.intercalate parts →
    c ∈ sep ∨ ∃ part ∈ parts, c ∈ part
  | [], h => by cases h
  | [part], h => by
    rw [List.intercalate_singleton] at h
    exact .inr ⟨part, List.mem_singleton_self _, h⟩
  | part :: next :: rest, h => by
    rw [List.intercalate_cons_cons, List.append_assoc] at h
    rcases List.mem_append.1 h with h | h
    · exact .inr ⟨part, List.mem_cons_self, h⟩
    · rcases List.mem_append.1 h with h | h
      · exact .inl h
      · exact (mem_intercalate h).imp_right fun ⟨found, hf, hc⟩ => ⟨found, List.mem_cons_of_mem _ hf, hc⟩

theorem mem_snakeCase (h : c ∈ snakeCase cs) : c = '_' ∨ ∃ word ∈ words cs, c ∈ lowerText word := by
  rcases mem_intercalate h with h | ⟨part, hp, hc⟩
  · exact .inl (List.mem_singleton.1 h)
  · obtain ⟨word, hw, rfl⟩ := List.mem_map.1 hp
    exact .inr ⟨word, hw, hc⟩

/-- A name in small letters begins with no underscore. -/
theorem head?_snakeCase_ne (cs : List Char) : (snakeCase cs).head? ≠ some '_' := by
  unfold snakeCase
  cases hw : words cs with
  | nil => exact fun h => by cases h
  | cons first others =>
    have mem : first ∈ words cs := hw ▸ List.mem_cons_self
    obtain ⟨c, rest, low⟩ := List.exists_cons_of_ne_nil (lowerText_ne_nil (ne_nil_of_mem_words mem))
    have other : c ≠ '_' := by
      rintro rfl
      exact underscore_not_mem_lowerText mem (low ▸ List.mem_cons_self)
    have front : (['_'].intercalate ((first :: others).map lowerText)).head? = some c := by
      rw [List.map_cons, low]
      cases others with
      | nil => rfl
      | cons _ _ => rfl
    rw [front]
    exact fun h => other (Option.some.inj h)

/-- A capital of ASCII that no character becomes in small letters. -/
structure IsLost (mark : Char) : Prop where
  lower : ∀ c, mark ∉ lowerChar c
  sigma : mark ≠ 'σ' ∧ mark ≠ 'ς'
  underscore : mark ≠ '_'

theorem isLost_of_misses (hn : 0 < mark.toNat) (hl : mark.isLower = false)
    (misses : missesExpansions lowerExpansions mark.toNat = true ∧ missesRuns lowerRuns mark.toNat = true)
    (moved : mark ∉ lowerChar mark) (sigma : mark ≠ 'σ' ∧ mark ≠ 'ς') (underscore : mark ≠ '_') : IsLost mark :=
  ⟨fun c h => moved (by
    have own : c = mark := eq_of_mem_lowerChar hn hl misses h
    rwa [own] at h), sigma, underscore⟩

theorem isLost_S : IsLost 'S' := by
  refine isLost_of_misses ?_ ?_ ⟨?_, ?_⟩ ?_ ⟨?_, ?_⟩ ?_ <;> decide +kernel

theorem isLost_O : IsLost 'O' := by
  refine isLost_of_misses ?_ ?_ ⟨?_, ?_⟩ ?_ ⟨?_, ?_⟩ ?_ <;> decide +kernel

theorem IsLost.not_mem_snakeCase (hm : IsLost mark) (cs : List Char) : mark ∉ snakeCase cs := by
  intro h
  rcases mem_snakeCase h with h | ⟨word, -, h⟩
  · exact hm.underscore h
  · obtain ⟨c, -, low⟩ := exists_of_mem_lowerFrom hm.sigma word [] h
    exact hm.lower c low

/-! ## Names of named constructors -/

theorem toList_constValue (raw : String) :
    (conventionalNames.constValue raw).toList = snakeCase (sanitize raw.toList) := by
  show (String.ofList (snakeCase (sanitize raw.toList))).toList = _
  rw [String.toList_ofList]

theorem IsLost.not_mem_constValue (hm : IsLost mark) (raw : String) :
    mark ∉ (conventionalNames.constValue raw).toList := by
  rw [toList_constValue]
  exact hm.not_mem_snakeCase _

theorem head?_constValue_ne (raw : String) : (conventionalNames.constValue raw).toList.head? ≠ some '_' := by
  rw [toList_constValue]
  exact head?_snakeCase_ne _

end SchemaClasses
