/-
The characters that names are made of. Changing the case of a letter makes no punctuation, so that the
conventional name of a class has no backslash and no question mark; and blanks are no part of a word, so that
a word put before a raw name comes before the name that is made of it.
-/
import SchemaClasses.Names
import SchemaClasses.Proofs.Class.Name
import SchemaClasses.Proofs.Lists
import SchemaClasses.Proofs.Text.Words

namespace SchemaClasses

open Text

variable {mark c : Char} {cs : List Char}

/-! ## Case mappings -/

/-- No run of a table leads to a code point. -/
def missesRuns (runs : List CaseRun) (code : Nat) : Bool :=
  runs.all fun run => (run.last : Int) + run.shift < code || (code : Int) < run.first + run.shift

/-- No expansion of a table has a code point among its own. -/
def missesExpansions (expansions : List (Nat × List Nat)) (code : Nat) : Bool :=
  expansions.all fun entry => !entry.2.contains code

theorem toNat_of_eq_ofNat {n : Nat} (h : mark = Char.ofNat n) (hm : 0 < mark.toNat) : n = mark.toNat := by
  by_cases hv : n.isValidChar
  · rw [h, Char.ofNat, dif_pos hv]
    rfl
  · rw [h, Char.ofNat, dif_neg hv] at hm
    cases hm

theorem eq_of_mem_mapCase {expansions : List (Nat × List Nat)} {runs : List CaseRun} (hm : 0 < mark.toNat)
    (he : missesExpansions expansions mark.toNat = true) (hr : missesRuns runs mark.toNat = true)
    (h : mark ∈ mapCase expansions runs c) : c = mark := by
  unfold mapCase at h
  split at h
  · rename_i codes hl
    obtain ⟨code, hc, hn⟩ := List.mem_map.1 h
    have none := List.all_eq_true.1 he _ (mem_of_lookup hl)
    rw [← toNat_of_eq_ofNat hn.symm hm] at none
    simp [hc] at none
  · split at h
    · rename_i run hf
      -- the run takes `c` into its image, which lies on one side of the mark
      have beyond := List.all_eq_true.1 hr _ (List.mem_of_find?_eq_some hf)
      have inside := List.find?_some hf
      have hn := toNat_of_eq_ofNat (List.mem_singleton.1 h) hm
      simp only [CaseRun.contains, Bool.and_eq_true, decide_eq_true_eq, beq_iff_eq] at inside
      simp only [Bool.or_eq_true, decide_eq_true_eq] at beyond
      omega
    · exact (List.mem_singleton.1 h).symm

theorem eq_of_toUpper_eq (hm : mark.isUpper = false) (h : mark = c.toUpper) : c = mark := by
  delta Char.isUpper at hm
  unfold Char.toUpper at h
  split at h
  · subst h
    simp only [decide_eq_false_iff_not] at hm
    grind
  · exact h.symm

theorem eq_of_toLower_eq (hm : mark.isLower = false) (h : mark = c.toLower) : c = mark := by
  delta Char.isLower at hm
  unfold Char.toLower at h
  split at h
  · subst h
    simp only [Bool.and_eq_false_iff, decide_eq_false_iff_not] at hm
    grind
  · exact h.symm

/-- A character that no letter has as its upper or lower case, and that no name has. -/
structure IsMark (mark : Char) : Prop where
  upper : ∀ {c}, mark ∈ upperChar c → c = mark
  lower : ∀ {c}, mark ∈ lowerChar c → c = mark
  sigma : mark ≠ 'σ' ∧ mark ≠ 'ς'
  name : isAlphanumeric mark = false ∧ mark ≠ '_' ∧ mark ≠ ' '

/-- A character is the lower case of another one only if a table leads to it. -/
theorem eq_of_mem_lowerChar (hn : 0 < mark.toNat) (hl : mark.isLower = false)
    (misses : missesExpansions lowerExpansions mark.toNat = true ∧ missesRuns lowerRuns mark.toNat = true)
    (h : mark ∈ lowerChar c) : c = mark := by
  unfold lowerChar at h
  split at h
  · exact eq_of_toLower_eq hl (List.mem_singleton.1 h)
  · exact eq_of_mem_mapCase hn misses.1 misses.2 h

theorem isMark_of_misses (hn : 0 < mark.toNat) (hu : mark.isUpper = false) (hl : mark.isLower = false)
    (upper : missesExpansions upperExpansions mark.toNat = true ∧ missesRuns upperRuns mark.toNat = true)
    (lower : missesExpansions lowerExpansions mark.toNat = true ∧ missesRuns lowerRuns mark.toNat = true)
    (sigma : mark ≠ 'σ' ∧ mark ≠ 'ς') (name : isAlphanumeric mark = false ∧ mark ≠ '_' ∧ mark ≠ ' ') :
    IsMark mark := by
  refine ⟨fun {c} h => ?_, eq_of_mem_lowerChar hn hl lower, sigma, name⟩
  unfold upperChar at h
  split at h
  · exact eq_of_toUpper_eq hu (List.mem_singleton.1 h)
  · exact eq_of_mem_mapCase hn upper.1 upper.2 h

theorem isMark_backslash : IsMark '\\' := by
  refine isMark_of_misses ?_ ?_ ?_ ⟨?_, ?_⟩ ⟨?_, ?_⟩ ⟨?_, ?_⟩ ⟨?_, ?_, ?_⟩ <;> decide +kernel

theorem isMark_question : IsMark '?' := by
  refine isMark_of_misses ?_ ?_ ?_ ⟨?_, ?_⟩ ⟨?_, ?_⟩ ⟨?_, ?_⟩ ⟨?_, ?_, ?_⟩ <;> decide +kernel

theorem isMark_slash : IsMark '/' := by
  refine isMark_of_misses ?_ ?_ ?_ ⟨?_, ?_⟩ ⟨?_, ?_⟩ ⟨?_, ?_⟩ ⟨?_, ?_, ?_⟩ <;> decide +kernel

/-! ## Words -/

theorem mem_wordsAfter : ∀ (cs : List Char) (left : Option Char) (word : List Char) {found : List Char},
    found ∈ wordsAfter left word cs → c ∈ found → c ∈ word ∨ c ∈ cs
  | [], _, _, _, hf, hc => .inl (List.mem_singleton.1 hf ▸ hc)
  | next :: rest, left, word, found, hf, hc => by
    unfold wordsAfter at hf
    split at hf
    · rcases List.mem_cons.1 hf with rfl | hf
      · exact .inl hc
      · rcases mem_wordsAfter rest _ _ hf hc with h | h
        · cases h
        · exact .inr (List.mem_cons_of_mem _ h)
    · split at hf
      · rcases List.mem_cons.1 hf with rfl | hf
        · exact .inl hc
        · rcases mem_wordsAfter rest _ _ hf hc with h | h
          · exact .inr (List.mem_singleton.1 h ▸ List.mem_cons_self)
          · exact .inr (List.mem_cons_of_mem _ h)
      · rcases mem_wordsAfter rest _ _ hf hc with h | h
        · rcases List.mem_append.1 h with h | h
          · exact .inl h
          · exact .inr (List.mem_singleton.1 h ▸ List.mem_cons_self)
        · exact .inr (List.mem_cons_of_mem _ h)

theorem mem_of_mem_words {word : List Char} (hw : word ∈ words cs) (hc : c ∈ word) : c ∈ cs := by
  rcases mem_wordsAfter cs none [] (List.mem_filter.1 hw).1 hc with h | h
  · cases h
  · exact h

/-- What a text has in small letters is the lower case of one of its characters. -/
theorem exists_of_mem_lowerFrom (sigma : mark ≠ 'σ' ∧ mark ≠ 'ς') : ∀ (cs before : List Char),
    mark ∈ lowerFrom before cs → ∃ c ∈ cs, mark ∈ lowerChar c
  | [], _, h => by cases h
  | next :: rest, before, h => by
    unfold lowerFrom at h
    simp only at h
    rcases List.mem_append.1 h with h | h
    · split at h
      · split at h
        -- a capital sigma becomes one of the two small ones
        · exact absurd (List.mem_singleton.1 h) sigma.2
        · exact absurd (List.mem_singleton.1 h) sigma.1
      · exact ⟨next, List.mem_cons_self, h⟩
    · obtain ⟨c, hc, h⟩ := exists_of_mem_lowerFrom sigma rest _ h
      exact ⟨c, List.mem_cons_of_mem _ hc, h⟩

theorem IsMark.mem_lowerFrom (hm : IsMark mark) (cs before : List Char) (h : mark ∈ lowerFrom before cs) :
    mark ∈ cs := by
  obtain ⟨c, hc, h⟩ := exists_of_mem_lowerFrom hm.sigma cs before h
  exact hm.lower h ▸ hc

theorem IsMark.mem_pascalCase (hm : IsMark mark) (h : mark ∈ pascalCase cs) : mark ∈ cs := by
  obtain ⟨word, hw, hc⟩ := List.mem_flatMap.1 h
  refine mem_of_mem_words hw ?_
  cases word with
  | nil => cases hc
  | cons first rest =>
    rcases List.mem_append.1 hc with hc | hc
    · exact hm.upper hc ▸ List.mem_cons_self
    · exact List.mem_cons_of_mem _ (hm.mem_lowerFrom rest _ hc)

theorem IsMark.not_mem_sanitize (hm : IsMark mark) (raw : List Char) : mark ∉ sanitize raw := by
  intro h
  have h : mark ∈ raw.map fun c => if isAlphanumeric c || c == '_' then c else ' ' :=
    (List.dropWhile_suffix _).mem (prefix_trimEnd.mem h)
  obtain ⟨c, -, hc⟩ := List.mem_map.1 h
  obtain ⟨alphanumeric, underscore, space⟩ := hm.name
  split at hc
  · rename_i hn
    subst hc
    rw [alphanumeric, Bool.false_or, beq_iff_eq] at hn
    exact underscore hn
  · exact space hc.symm

/-! ## Names of classes -/

/-- Names of classes have neither backslashes nor question marks. -/
structure PlainNames (filters : NameFilters) : Prop where
  short : ∀ raw, IsShort (filters.className raw)
  unmarked : ∀ raw, '?' ∉ (filters.className raw).toList

theorem IsMark.not_mem_className (hm : IsMark mark) (raw : String) :
    mark ∉ (conventionalNames.className raw).toList := by
  show mark ∉ (String.ofList (pascalCase (sanitize raw.toList))).toList
  rw [String.toList_ofList]
  exact fun h => hm.not_mem_sanitize _ (hm.mem_pascalCase h)

theorem plainNames_conventional : PlainNames conventionalNames :=
  ⟨isMark_backslash.not_mem_className, isMark_question.not_mem_className⟩

/-! ## Blanks -/

/-- Two tables of ranges without a code point in common. -/
def apart (ranges others : List (Nat × Nat)) : Bool :=
  ranges.all fun range => others.all fun other => range.2 < other.1 || other.2 < range.1

theorem inRanges_of_apart {ranges others : List (Nat × Nat)} {code : Nat} (h : apart ranges others = true)
    (inside : inRanges ranges code = true) : inRanges others code = false := by
  rw [Bool.eq_false_iff]
  intro both
  obtain ⟨range, hr, first⟩ := inRanges_iff.1 inside
  obtain ⟨other, ho, second⟩ := inRanges_iff.1 both
  have between := List.all_eq_true.1 (List.all_eq_true.1 h range hr) other ho
  simp only [Bool.or_eq_true, decide_eq_true_eq] at between
  omega

theorem isAlphanumeric_of_isBlank (h : isBlank c = true) : isAlphanumeric c = false := by
  unfold isBlank at h
  unfold isAlphanumeric isAlphabetic isNumeric
  split at h
  · rename_i ascii
    simp only [ascii, if_true]
    simp only [Bool.or_eq_true, beq_iff_eq, Bool.and_eq_true, decide_eq_true_eq] at h
    rcases h with rfl | ⟨low, high⟩
    · decide
    · unfold Char.toNat at low high
      delta Char.isAlpha Char.isUpper Char.isLower
      simp only [Char.isDigit, ge_iff_le, UInt32.le_iff_toNat_le]
      grind
  · rename_i ascii
    simp only [ascii, if_false]
    rw [inRanges_of_apart (by decide +kernel) h, inRanges_of_apart (by decide +kernel) h]
    rfl

/-- A raw name with a space for every character that cannot stand in an identifier. -/
def spaced (raw : List Char) : List Char := raw.map fun c => if isAlphanumeric c || c == '_' then c else ' '

/-- The only blanks left are spaces, which separate words. -/
theorem isSeparator_of_mem_spaced {raw : List Char} (h : c ∈ spaced raw) (blank : isBlank c = true) :
    isSeparator c = true := by
  obtain ⟨original, -, hc⟩ := List.mem_map.1 h
  split at hc
  · rename_i inName
    subst hc
    rw [isAlphanumeric_of_isBlank blank, Bool.false_or, beq_iff_eq] at inName
    subst inName
    rfl
  · subst hc
    rfl

/-- Spaces at the front of a raw name change no words. -/
theorem words_sanitize (raw : List Char) : words (sanitize raw) = words (trimEnd isBlank (spaced raw)) := by
  have parts : (spaced raw).takeWhile isBlank ++ trimStart isBlank (spaced raw) = spaced raw :=
    List.takeWhile_append_dropWhile
  show words (trimEnd isBlank (trimStart isBlank (spaced raw))) = _
  generalize hf : (spaced raw).takeWhile isBlank = front at parts
  have separators : ∀ c ∈ front, isBlank c = true ∧ isSeparator c = true := by
    intro c hc
    have blank : isBlank c = true := by
      rw [← hf] at hc
      exact List.mem_takeWhile_imp hc
    have inside : c ∈ spaced raw := by
      rw [← parts]
      exact List.mem_append_left _ hc
    exact ⟨blank, isSeparator_of_mem_spaced inside blank⟩
  rw [← parts, trimEnd_append, parts]
  split
  · rename_i empty
    rw [empty, trimEnd_eq_nil.2 fun c hc => (separators c hc).1]
  · rw [words_append_of_separators fun c hc => (separators c hc).2]

/-- The word `for` before a raw name comes before its name in capitals. -/
theorem conventionalNames_methodName_for (raw : String) :
    conventionalNames.methodName ("for_" ++ raw) = "for" ++ conventionalNames.className raw := by
  have front : spaced ("for_".toList ++ raw.toList) = "for_".toList ++ spaced raw.toList := by
    rw [spaced, List.map_append]
    rfl
  have sanitized : sanitize ("for_".toList ++ raw.toList) = "for_".toList ++ trimEnd isBlank (spaced raw.toList) := by
    show trimEnd isBlank (trimStart isBlank (spaced _)) = _
    rw [front, trimStart_eq_self (by rintro _ ⟨⟩; rfl), trimEnd_append]
    split
    · rename_i empty
      rw [empty]
      rfl
    · rfl
  show String.ofList (camelCase (sanitize ("for_" ++ raw).toList)) = "for" ++ String.ofList (pascalCase (sanitize raw.toList))
  rw [String.toList_append, sanitized, camelCase, words_for, pascalCase, words_sanitize]
  show String.ofList ("for".toList ++ _) = _
  rw [String.ofList_append, String.ofList_toList]

end SchemaClasses
