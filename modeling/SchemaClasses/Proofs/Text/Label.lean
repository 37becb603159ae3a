/-
Conventional names as labels of the generated code. Changing the case of a letter gives letters again, so that a name
holds nothing but letters, numbers and underscores; whether it can begin a label depends on the first letter or number of
the raw name alone.
-/
import SchemaClasses.Proofs.Text.Ascii
import SchemaClasses.Proofs.Text.Spelling

namespace SchemaClasses

open Text

variable {c d : Char}

/-! ## Labels -/

/-- The characters that a label can begin with: ASCII letters, the underscore and everything beyond ASCII. -/
def startsLabel (c : Char) : Bool := c.isAlpha || c == '_' || 0x80 ≤ c.toNat

/-- The characters that a label consists of. -/
def inLabel (c : Char) : Bool := startsLabel c || c.isDigit

/-- Whether a text is a label. -/
def isLabel (text : String) : Bool :=
  match text.toList with
  | [] => false
  | c :: rest => startsLabel c && rest.all inLabel

/-- A raw name has a letter or number, and the first one is no digit of ASCII. -/
def LeadsWithLetter (raw : String) : Prop := ∃ c, raw.toList.find? isAlphanumeric = some c ∧ c.isDigit = false

theorem inLabel_of_startsLabel (h : startsLabel c = true) : inLabel c = true := by
  rw [inLabel, h]
  rfl

theorem startsLabel_of_isDigit (h : c.isDigit = true) : startsLabel c = false := by
  have underscore : (c == '_') = false := by
    rw [beq_eq_false_iff_ne]
    rintro rfl
    cases h
  rw [startsLabel, isAlpha_of_isDigit h, underscore, decide_eq_false (not_le_of_gt (ascii_of_isDigit h))]
  rfl

/-! ## Letters in another case -/

/-- Whether all code points from one up to another are those of characters that can begin a label. -/
def letters (low high : Int) : Bool :=
  (0x41 ≤ low && high ≤ 0x5A) || (0x61 ≤ low && high ≤ 0x7A) || (0x80 ≤ low && high < 0xD800) ||
    (0xE000 ≤ low && high < 0x110000)

theorem startsLabel_ofNat {low high : Int} {code : Nat} (h : letters low high = true) (above : low ≤ code)
    (below : code ≤ high) : startsLabel (Char.ofNat code) = true := by
  simp only [letters, Bool.or_eq_true, Bool.and_eq_true, decide_eq_true_eq] at h
  have valid : code.isValidChar := by
    unfold Nat.isValidChar
    omega
  have own : (Char.ofNat code).toNat = code := by rw [Char.toNat_ofNat, if_pos valid]
  rw [startsLabel, Bool.or_eq_true, Bool.or_eq_true, isAlpha_iff_toNat, decide_eq_true_eq, own]
  omega

/-- Whether the tables lead to nothing but characters that can begin a label. -/
def keepLetters (expansions : List (Nat × List Nat)) (runs : List CaseRun) : Bool :=
  (expansions.all fun entry => entry.2.all fun code => letters code code) &&
    runs.all fun run => letters (run.first + run.shift) (run.last + run.shift)

theorem startsLabel_of_mem_mapCase {expansions : List (Nat × List Nat)} {runs : List CaseRun}
    (h : keepLetters expansions runs = true) (beyond : 0x80 ≤ c.toNat) (hd : d ∈ mapCase expansions runs c) :
    startsLabel d = true := by
  obtain ⟨expanded, shifted⟩ := Bool.and_eq_true_iff.1 h
  unfold mapCase at hd
  split at hd
  · rename_i codes hl
    obtain ⟨code, hc, rfl⟩ := List.mem_map.1 hd
    have letter := List.all_eq_true.1 (List.all_eq_true.1 expanded _ (mem_of_lookup hl)) code hc
    exact startsLabel_ofNat letter le_rfl le_rfl
  · split at hd
    · rename_i run hf
      rw [List.mem_singleton.1 hd]
      have letter := List.all_eq_true.1 shifted run (List.mem_of_find?_eq_some hf)
      have inside := List.find?_some hf
      simp only [CaseRun.contains, Bool.and_eq_true, decide_eq_true_eq] at inside
      have positive : 0 ≤ (c.toNat : Int) + run.shift := by
        have low := letter
        simp only [letters, Bool.or_eq_true, Bool.and_eq_true, decide_eq_true_eq] at low
        omega
      refine startsLabel_ofNat letter ?_ ?_ <;> omega
    · rw [List.mem_singleton.1 hd, startsLabel, decide_eq_true beyond, Bool.or_true]

/-- A letter or number that is no digit of ASCII has only such characters in upper case. -/
theorem startsLabel_of_mem_upperChar (h : isAlphanumeric c = true) (digit : c.isDigit = false) (hd : d ∈ upperChar c) :
    startsLabel d = true := by
  unfold upperChar at hd
  split at hd
  · rename_i ascii
    have letter : c.isAlpha = true := ((isAlphanumeric_iff ascii).1 h).resolve_right (Bool.eq_false_iff.1 digit)
    rw [List.mem_singleton.1 hd, startsLabel, Char.isAlpha_toUpper_eq_isAlpha, letter]
    rfl
  · rename_i beyond
    exact startsLabel_of_mem_mapCase (by decide +kernel) (not_lt.1 beyond) hd

theorem startsLabel_of_mem_lowerChar (h : isAlphanumeric c = true) (digit : c.isDigit = false) (hd : d ∈ lowerChar c) :
    startsLabel d = true := by
  unfold lowerChar at hd
  split at hd
  · rename_i ascii
    have letter : c.isAlpha = true := ((isAlphanumeric_iff ascii).1 h).resolve_right (Bool.eq_false_iff.1 digit)
    rw [List.mem_singleton.1 hd, startsLabel, Char.isAlpha_toLower_eq_isAlpha, letter]
    rfl
  · rename_i beyond
    exact startsLabel_of_mem_mapCase (by decide +kernel) (not_lt.1 beyond) hd

/-! ## Words in another case -/

section Words

variable {word rest : List Char}

theorem inLabel_of_mem_upperChar (h : isAlphanumeric c = true) (hd : d ∈ upperChar c) : inLabel d = true := by
  cases digit : c.isDigit with
  | true =>
    rw [upperChar_of_isDigit digit] at hd
    rw [List.mem_singleton.1 hd, inLabel, digit, Bool.or_true]
  | false => exact inLabel_of_startsLabel (startsLabel_of_mem_upperChar h digit hd)

theorem inLabel_of_mem_lowerChar (h : isAlphanumeric c = true) (hd : d ∈ lowerChar c) : inLabel d = true := by
  cases digit : c.isDigit with
  | true =>
    rw [lowerChar_of_isDigit digit] at hd
    rw [List.mem_singleton.1 hd, inLabel, digit, Bool.or_true]
  | false => exact inLabel_of_startsLabel (startsLabel_of_mem_lowerChar h digit hd)

theorem inLabel_of_mem_upperText (h : ∀ c ∈ word, isAlphanumeric c = true) (hd : d ∈ upperText word) :
    inLabel d = true := by
  obtain ⟨c, hc, hd⟩ := List.mem_flatMap.1 hd
  exact inLabel_of_mem_upperChar (h c hc) hd

theorem inLabel_of_mem_lowerText (h : ∀ c ∈ word, isAlphanumeric c = true) (hd : d ∈ lowerText word) :
    inLabel d = true := by
  by_cases sigma : d ≠ 'σ' ∧ d ≠ 'ς'
  · obtain ⟨c, hc, hd⟩ := exists_of_mem_lowerFrom sigma word [] hd
    exact inLabel_of_mem_lowerChar (h c hc) hd
  · rw [not_and_or, not_not, not_not] at sigma
    rcases sigma with rfl | rfl <;> decide

theorem inLabel_of_mem_capitalize (h : ∀ c ∈ word, isAlphanumeric c = true) (hd : d ∈ capitalize word) :
    inLabel d = true := by
  cases word with
  | nil => cases hd
  | cons c rest =>
    obtain ⟨front, others⟩ := List.forall_mem_cons.1 h
    rcases List.mem_append.1 hd with hd | hd
    · exact inLabel_of_mem_upperChar front hd
    · exact inLabel_of_mem_lowerText others hd

/-- A word begins with a digit in either case, or in neither. -/
theorem exists_upperChar (h : isAlphanumeric c = true) (rest : List Char) :
    ∃ d tail, upperChar c ++ rest = d :: tail ∧ startsLabel d = !c.isDigit := by
  cases digit : c.isDigit with
  | true =>
    rw [upperChar_of_isDigit digit]
    exact ⟨c, rest, rfl, startsLabel_of_isDigit digit⟩
  | false =>
    obtain ⟨d, tail, upper⟩ := List.exists_cons_of_ne_nil (upperChar_ne_nil c)
    rw [upper]
    exact ⟨d, tail ++ rest, rfl, startsLabel_of_mem_upperChar h digit (upper ▸ List.mem_cons_self)⟩

theorem exists_lowerText (h : isAlphanumeric c = true) (rest : List Char) :
    ∃ d tail, lowerText (c :: rest) = d :: tail ∧ startsLabel d = !c.isDigit := by
  show ∃ d tail, lowerFrom [] (c :: rest) = d :: tail ∧ _
  unfold lowerFrom
  simp only
  split
  · rename_i sigma
    rw [beq_iff_eq] at sigma
    subst sigma
    split
    · exact ⟨'ς', _, rfl, rfl⟩
    · exact ⟨'σ', _, rfl, rfl⟩
  · cases digit : c.isDigit with
    | true =>
      rw [lowerChar_of_isDigit digit]
      exact ⟨c, _, rfl, startsLabel_of_isDigit digit⟩
    | false =>
      obtain ⟨d, tail, lower⟩ := List.exists_cons_of_ne_nil (lowerChar_ne_nil c)
      rw [lower]
      exact ⟨d, _, rfl, startsLabel_of_mem_lowerChar h digit (lower ▸ List.mem_cons_self)⟩

end Words

/-! ## Names -/

namespace Spelling

/-- A way of writing words of letters and numbers that makes nothing else of them, and a digit in front of a name only
of a digit in front of the first word. -/
structure KeepsLetters (s : Spelling) : Prop where
  inside : ∀ {word d}, (∀ c ∈ word, isAlphanumeric c = true) → d ∈ s.first word ∨ d ∈ s.later word → inLabel d = true
  front : ∀ {c}, isAlphanumeric c = true → ∀ rest, ∃ d tail, s.first (c :: rest) = d :: tail ∧ startsLabel d = !c.isDigit

theorem keepsLetters_pascal : pascal.KeepsLetters where
  inside h hd := inLabel_of_mem_capitalize h (hd.elim id id)
  front h rest := exists_upperChar h (lowerText rest)

theorem keepsLetters_camel : camel.KeepsLetters where
  inside h hd := hd.elim (inLabel_of_mem_lowerText h) (inLabel_of_mem_capitalize h)
  front h rest := exists_lowerText h rest

theorem keepsLetters_snake : snake.KeepsLetters where
  inside h hd := hd.elim (inLabel_of_mem_lowerText h) fun hd =>
    (List.mem_cons.1 hd).elim (fun underscore => underscore ▸ rfl) (inLabel_of_mem_lowerText h)
  front h rest := exists_lowerText h rest

theorem keepsLetters_upperSnake : upperSnake.KeepsLetters where
  inside h hd := hd.elim (inLabel_of_mem_upperText h) fun hd =>
    (List.mem_cons.1 hd).elim (fun underscore => underscore ▸ rfl) (inLabel_of_mem_upperText h)
  front h rest := exists_upperChar h (upperText rest)

variable {s : Spelling}

theorem KeepsLetters.inLabel (keeps : s.KeepsLetters) {raw : List Char} (hd : d ∈ s.write (words (sanitize raw))) :
    SchemaClasses.inLabel d = true := by
  obtain ⟨word, hw, hd⟩ := mem_write hd
  exact keeps.inside (fun c hc => isAlphanumeric_of_mem_words hw hc) hd

/-- A name is a label if and only if the raw name leads with a letter. -/
theorem KeepsLetters.isLabel_iff (keeps : s.KeepsLetters) (raw : String) :
    isLabel (String.ofList (s.write (words (sanitize raw.toList)))) = true ↔ LeadsWithLetter raw := by
  unfold LeadsWithLetter
  generalize raw.toList = raw
  have first : raw.find? isAlphanumeric = (words (sanitize raw)).flatten.head? := by
    rw [flatten_words_sanitize, List.head?_filter]
  have labels : ∀ d ∈ s.write (words (sanitize raw)), SchemaClasses.inLabel d = true := fun d hd => keeps.inLabel hd
  rw [isLabel, String.toList_ofList, first]
  cases hw : words (sanitize raw) with
  | nil =>
    refine iff_of_false Bool.false_ne_true ?_
    rintro ⟨c, none, -⟩
    cases none
  | cons word others =>
    have mem : word ∈ words (sanitize raw) := hw ▸ List.mem_cons_self
    obtain ⟨c, rest, rfl⟩ := List.exists_cons_of_ne_nil (ne_nil_of_mem_words mem)
    obtain ⟨d, tail, front, starts⟩ := keeps.front (isAlphanumeric_of_mem_words mem List.mem_cons_self) rest
    have name : s.write ((c :: rest) :: others) = d :: (tail ++ others.flatMap s.later) := by
      rw [write, front]
      rfl
    rw [hw, name] at labels
    have inside : (tail ++ others.flatMap s.later).all SchemaClasses.inLabel = true :=
      List.all_eq_true.2 (List.forall_mem_cons.1 labels).2
    rw [name]
    show (startsLabel d && _) = true ↔ ∃ c', some c = some c' ∧ _
    rw [inside, Bool.and_true, starts, Bool.not_eq_true']
    exact ⟨fun h => ⟨c, rfl, h⟩, fun ⟨_, same, h⟩ => Option.some.inj same ▸ h⟩

end Spelling

/-- A digit in front of a raw name stays in front of its names. -/
example : isLabel (conventionalNames.className "2fa") = false := by decide +kernel

end SchemaClasses
