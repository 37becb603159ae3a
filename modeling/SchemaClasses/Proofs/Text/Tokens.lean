/-
Words of ASCII. A word is a number or all letters; in small letters, or with a capital at the front and small letters
behind it, it is still one, and it can be told what the word was.
-/
import SchemaClasses.Proofs.Text.Ascii

namespace SchemaClasses.Text

variable {c d l : Char} {cs t w : List Char}

/-! ## Characters of words -/

/-- A letter or digit of ASCII. -/
def IsAlnum (c : Char) : Prop := c.isAlpha = true ∨ c.isDigit = true

theorem IsAlnum.ascii (h : IsAlnum c) : c.toNat < 0x80 := by
  rcases h with h | h
  · rw [isAlpha_iff_toNat] at h
    omega
  · exact ascii_of_isDigit h

theorem IsAlnum.not_isSeparator (h : IsAlnum c) : isSeparator c = false := by
  rw [Bool.eq_false_iff]
  intro separator
  simp only [isSeparator, Bool.or_eq_true, beq_iff_eq] at separator
  rcases separator with (rfl | rfl) | rfl <;> rcases h with h | h <;> cases h

/-- What stands on two sides of a place in which no word ends is both digits or both letters. -/
theorem isDigit_eq_of_partsPair (hl : IsAlnum l) (hc : IsAlnum c) (h : partsPair l c = false) :
    l.isDigit = c.isDigit := by
  rw [partsPair, isSmall_eq hl.ascii, isCapital_eq hl.ascii, isSmall_eq hc.ascii, isCapital_eq hc.ascii] at h
  rcases hl with hl | hl <;> rcases hc with hc | hc
  · rw [isDigit_of_isAlpha hl, isDigit_of_isAlpha hc]
  · rw [hc, Bool.or_true, Bool.and_true, Bool.and_true, Bool.or_eq_false_iff, Bool.or_eq_false_iff] at h
    rw [Char.isAlpha, h.1.1, h.1.2] at hl
    cases hl
  · rw [hl, Bool.true_and, Bool.or_eq_false_iff] at h
    rw [Char.isAlpha, h.2] at hc
    cases hc
  · rw [hl, hc]

/-- Within a word there is no change between letters and digits. -/
theorem isDigit_eq_of_mem_wordsAfter : ∀ (cs : List Char) (left : Option Char) (word : List Char) {found : List Char},
    (∀ c ∈ cs, isSeparator c = false → IsAlnum c) →
    (∀ d ∈ word, ∃ l, left = some l ∧ IsAlnum l ∧ d.isDigit = l.isDigit) → found ∈ wordsAfter left word cs →
    ∀ c ∈ found, ∀ d ∈ found, c.isDigit = d.isDigit
  | [], left, word, found, _, hw, hf, c, hc, d, hd => by
    rw [List.mem_singleton.1 hf] at hc hd
    obtain ⟨l, hl, -, first⟩ := hw c hc
    obtain ⟨_, rfl, -, second⟩ := hw d hd
    cases hl
    rw [first, second]
  | next :: rest, left, word, found, plain, hw, hf, c, hc, d, hd => by
    have same : found = word → c.isDigit = d.isDigit := by
      rintro rfl
      obtain ⟨l, hl, -, first⟩ := hw c hc
      obtain ⟨_, rfl, -, second⟩ := hw d hd
      cases hl
      rw [first, second]
    obtain ⟨own, others⟩ := List.forall_mem_cons.1 plain
    unfold wordsAfter at hf
    split at hf
    · rcases List.mem_cons.1 hf with hf | hf
      · exact same hf
      · exact isDigit_eq_of_mem_wordsAfter rest _ _ others (fun _ h => by cases h) hf c hc d hd
    · rename_i inWord
      have own := own (Bool.eq_false_iff.2 inWord)
      split at hf
      · rcases List.mem_cons.1 hf with hf | hf
        · exact same hf
        · refine isDigit_eq_of_mem_wordsAfter rest _ _ others (fun e he => ⟨next, rfl, own, ?_⟩) hf c hc d hd
          rw [List.mem_singleton.1 he]
      · rename_i closed
        refine isDigit_eq_of_mem_wordsAfter rest _ _ others (fun e he => ⟨next, rfl, own, ?_⟩) hf c hc d hd
        rcases List.mem_append.1 he with he | he
        · obtain ⟨l, rfl, hl, digit⟩ := hw e he
          rw [opensWord, Option.any_some, Bool.not_eq_true, Bool.or_eq_false_iff] at closed
          rw [digit, isDigit_eq_of_partsPair hl own closed.1]
        · rw [List.mem_singleton.1 he]

/-- A word of ASCII: a number, or nothing but letters. -/
structure IsWord (w : List Char) : Prop where
  filled : w ≠ []
  pure : (∀ c ∈ w, c.isDigit = true) ∨ ∀ c ∈ w, c.isAlpha = true

theorem isWord_of_mem_words (plain : ∀ c ∈ cs, isSeparator c = false → IsAlnum c) (own : ∀ c ∈ w, IsAlnum c)
    (hw : w ∈ words cs) : IsWord w := by
  obtain ⟨found, kept⟩ := List.mem_filter.1 hw
  have filled : w ≠ [] := by
    rintro rfl
    cases kept
  refine ⟨filled, ?_⟩
  have same := isDigit_eq_of_mem_wordsAfter cs none [] plain (fun _ h => by cases h) found
  obtain ⟨c, rest, rfl⟩ := List.exists_cons_of_ne_nil filled
  cases digit : c.isDigit with
  | true => exact .inl fun d hd => (same d hd c List.mem_cons_self).trans digit
  | false =>
    refine .inr fun d hd => (own d hd).resolve_right ?_
    rw [same d hd c List.mem_cons_self, digit]
    exact Bool.false_ne_true

/-! ## Words with capitals in front -/

/-- A word of a name: a number, or a letter with small letters behind it. -/
inductive IsToken : List Char → Prop
  | numeral {c : Char} {rest : List Char} (digits : ∀ d ∈ c :: rest, d.isDigit = true) : IsToken (c :: rest)
  | letters {c : Char} {rest : List Char} (letter : c.isAlpha = true) (small : ∀ d ∈ rest, d.isLower = true) :
      IsToken (c :: rest)

/-- A word of a name that does not begin with a small letter. -/
structure IsLater (t : List Char) : Prop where
  token : IsToken t
  front : ∀ c, t.head? = some c → c.isLower = false

def isNumeral (w : List Char) : Bool := w.all Char.isDigit

/-- A single letter. -/
def isInitial (w : List Char) : Bool := w.length == 1 && w.all Char.isAlpha

theorem isNumeral_of_isAlpha (h : c.isAlpha = true) (rest : List Char) : isNumeral (c :: rest) = false := by
  rw [isNumeral, List.all_cons, isDigit_of_isAlpha h, Bool.false_and]

theorem isInitial_of_isDigit (h : c.isDigit = true) (rest : List Char) : isInitial (c :: rest) = false := by
  rw [isInitial, List.all_cons, isAlpha_of_isDigit h, Bool.false_and, Bool.and_false]

theorem IsToken.plain (h : IsToken t) : ∀ c ∈ t, IsAlnum c := by
  cases h with
  | numeral digits => exact fun c hc => .inr (digits c hc)
  | letters letter small =>
    refine List.forall_mem_cons.2 ⟨.inl letter, fun c hc => .inl ?_⟩
    rw [Char.isAlpha, small c hc, Bool.or_true]

theorem IsToken.ne_nil (h : IsToken t) : t ≠ [] := by
  cases h <;> exact List.cons_ne_nil _ _

theorem isUpper_of_isDigit (h : c.isDigit = true) : c.isUpper = false ∧ c.isLower = false :=
  Bool.or_eq_false_iff.1 (isAlpha_of_isDigit h)

theorem IsToken.isUpper_tail (h : IsToken (c :: rest)) : ∀ d ∈ rest, d.isUpper = false ∧ d.isDigit = c.isDigit := by
  cases h with
  | numeral digits =>
    obtain ⟨front, others⟩ := List.forall_mem_cons.1 digits
    intro d hd
    have letter : d.isAlpha = false := isAlpha_of_isDigit (others d hd)
    rw [Char.isAlpha, Bool.or_eq_false_iff] at letter
    exact ⟨letter.1, (others d hd).trans front.symm⟩
  | letters letter small =>
    intro d hd
    have own : d.isAlpha = true := by rw [Char.isAlpha, small d hd, Bool.or_true]
    exact ⟨Bool.eq_false_iff.2 (Char.not_isUpper_of_isLower (small d hd)),
      (isDigit_of_isAlpha own).trans (isDigit_of_isAlpha letter).symm⟩

/-- The last character tells a number from letters, and is a capital only if it is the whole word. -/
theorem IsToken.last (h : IsToken t) (hl : t.getLast? = some l) :
    l.isAlpha = !isNumeral t ∧ l.isUpper = (isInitial t && t.all Char.isUpper) := by
  cases h with
  | @numeral c rest digits =>
    have digit := digits l (List.mem_of_getLast? hl)
    have whole : isNumeral (c :: rest) = true := List.all_eq_true.2 digits
    rw [isAlpha_of_isDigit digit, (isUpper_of_isDigit digit).1, whole,
      isInitial_of_isDigit (digits c List.mem_cons_self), Bool.false_and]
    exact ⟨rfl, rfl⟩
  | @letters c rest letter small =>
    rw [isNumeral_of_isAlpha letter]
    cases rest with
    | nil =>
      obtain rfl : c = l := Option.some.inj hl
      rw [isInitial, List.all_cons, List.all_nil, letter]
      exact ⟨rfl, (Bool.and_true _).symm⟩
    | cons d others =>
      have lower : l.isLower = true := small l (List.mem_of_getLast? (by rwa [List.getLast?_cons_cons] at hl))
      rw [Bool.eq_false_iff.2 (Char.not_isUpper_of_isLower lower), Char.isAlpha, lower, Bool.or_true]
      exact ⟨rfl, rfl⟩

/-! ## Words in another case -/

theorem isUpper_toUpper_of_isAlpha (h : c.isAlpha = true) : c.toUpper.isUpper = true := by
  rwa [Char.isUpper_toUpper_eq_isAlpha]

theorem isLower_of_mem_map_toLower (h : ∀ c ∈ cs, c.isAlpha = true) : ∀ d ∈ cs.map Char.toLower, d.isLower = true := by
  intro d hd
  obtain ⟨c, hc, rfl⟩ := List.mem_map.1 hd
  rw [Char.isLower_toLower_eq_isAlpha, h c hc]

namespace IsWord

theorem isAscii (h : IsWord w) : IsAscii w := fun c hc =>
  h.pure.elim (fun digits => ascii_of_isDigit (digits c hc)) fun letters => IsAlnum.ascii (.inl (letters c hc))

/-- A number is the same in small letters and with a capital. -/
theorem numeral_eq (h : IsWord w) (digits : ∀ c ∈ w, c.isDigit = true) : lowerText w = w ∧ capitalize w = w := by
  have lower : ∀ {cs : List Char}, (∀ c ∈ cs, c.isDigit = true) → cs.map Char.toLower = cs := fun digits =>
    (List.map_congr_left fun c hc => toLower_of_isDigit (digits c hc)).trans (List.map_id _)
  obtain ⟨c, rest, rfl⟩ := List.exists_cons_of_ne_nil h.filled
  obtain ⟨front, others⟩ := List.forall_mem_cons.1 digits
  rw [lowerText_of_isAscii h.isAscii, capitalize_of_isAscii h.isAscii, lower digits, lower others,
    toUpper_of_isDigit front]
  exact ⟨rfl, rfl⟩

/-- The forms that letters have. -/
theorem letters_eq (h : IsWord (c :: w)) : lowerText (c :: w) = c.toLower :: w.map Char.toLower ∧
    capitalize (c :: w) = c.toUpper :: w.map Char.toLower :=
  ⟨lowerText_of_isAscii h.isAscii, capitalize_of_isAscii h.isAscii⟩

theorem isToken_lowerText (h : IsWord w) : IsToken (lowerText w) := by
  obtain ⟨c, rest, rfl⟩ := List.exists_cons_of_ne_nil h.filled
  rcases h.pure with digits | letters
  · rw [(h.numeral_eq digits).1]
    exact .numeral digits
  · obtain ⟨front, others⟩ := List.forall_mem_cons.1 letters
    rw [h.letters_eq.1]
    exact .letters (by rwa [Char.isAlpha_toLower_eq_isAlpha]) (isLower_of_mem_map_toLower others)

theorem isLater_capitalize (h : IsWord w) : IsLater (capitalize w) := by
  obtain ⟨c, rest, rfl⟩ := List.exists_cons_of_ne_nil h.filled
  rcases h.pure with digits | letters
  · rw [(h.numeral_eq digits).2]
    refine ⟨.numeral digits, ?_⟩
    rintro d ⟨⟩
    exact (isUpper_of_isDigit (digits c List.mem_cons_self)).2
  · obtain ⟨front, others⟩ := List.forall_mem_cons.1 letters
    rw [h.letters_eq.2]
    refine ⟨.letters (by rwa [Char.isAlpha_toUpper_eq_isAlpha]) (isLower_of_mem_map_toLower others), ?_⟩
    rintro d ⟨⟩
    exact Char.isLower_toUpper_eq_false c

/-- In small letters a word stays a number or none, and is no single capital. -/
theorem kind_lowerText (h : IsWord w) : isNumeral (lowerText w) = isNumeral w ∧
    (isInitial (lowerText w) && (lowerText w).all Char.isUpper) = false := by
  obtain ⟨c, rest, rfl⟩ := List.exists_cons_of_ne_nil h.filled
  rcases h.pure with digits | letters
  · rw [(h.numeral_eq digits).1, List.all_cons, (isUpper_of_isDigit (digits c List.mem_cons_self)).1, Bool.false_and,
      Bool.and_false]
    exact ⟨rfl, rfl⟩
  · have front := letters c List.mem_cons_self
    have letter : c.toLower.isAlpha = true := by rw [Char.isAlpha_toLower_eq_isAlpha, front]
    rw [h.letters_eq.1, isNumeral_of_isAlpha front, isNumeral_of_isAlpha letter, List.all_cons,
      Char.isUpper_toLower_eq_false, Bool.false_and, Bool.and_false]
    exact ⟨rfl, rfl⟩

/-- With a capital in front a word stays a number or none, and is a single capital if it is a single letter. -/
theorem kind_capitalize (h : IsWord w) : isNumeral (capitalize w) = isNumeral w ∧
    (isInitial (capitalize w) && (capitalize w).all Char.isUpper) = isInitial w := by
  obtain ⟨c, rest, rfl⟩ := List.exists_cons_of_ne_nil h.filled
  rcases h.pure with digits | letters
  · have front := digits c List.mem_cons_self
    rw [(h.numeral_eq digits).2, isInitial_of_isDigit front, Bool.false_and]
    exact ⟨rfl, rfl⟩
  · have front := letters c List.mem_cons_self
    have letter : c.toUpper.isAlpha = true := by rw [Char.isAlpha_toUpper_eq_isAlpha, front]
    rw [h.letters_eq.2, isNumeral_of_isAlpha front, isNumeral_of_isAlpha letter, isInitial, isInitial,
      List.all_eq_true.2 letters]
    refine ⟨rfl, ?_⟩
    cases rest with
    | nil =>
      rw [List.map_nil, List.all_cons, List.all_cons, letter, isUpper_toUpper_of_isAlpha front]
      rfl
    | cons _ _ => rfl

theorem lowerText_eq_capitalize_iff (h : IsWord w) : lowerText w = capitalize w ↔ isNumeral w = true := by
  obtain ⟨c, rest, rfl⟩ := List.exists_cons_of_ne_nil h.filled
  rcases h.pure with digits | letters
  · rw [(h.numeral_eq digits).1, (h.numeral_eq digits).2]
    exact iff_of_true rfl (List.all_eq_true.2 digits)
  · rw [isNumeral_of_isAlpha (letters c List.mem_cons_self), h.letters_eq.1, h.letters_eq.2]
    refine iff_of_false (fun same => ?_) Bool.false_ne_true
    have upper := isUpper_toUpper_of_isAlpha (letters c List.mem_cons_self)
    rw [← List.head_eq_of_cons_eq same, Char.isUpper_toLower_eq_false] at upper
    cases upper

theorem not_isInitial_of_isNumeral (h : IsWord w) (numeral : isNumeral w = true) : isInitial w = false := by
  obtain ⟨c, rest, rfl⟩ := List.exists_cons_of_ne_nil h.filled
  exact isInitial_of_isDigit (List.all_eq_true.1 numeral c List.mem_cons_self) rest

end IsWord

end SchemaClasses.Text
