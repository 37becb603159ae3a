/-
Letters and digits of ASCII by their code points, and the case mappings there: one character to one character, whatever
stands around it.
-/
import Mathlib
import SchemaClasses.Text.Alphanumeric
import SchemaClasses.Text.Words

namespace SchemaClasses.Text

variable {c : Char} {cs : List Char}

/-! ## Code points -/

theorem isUpper_iff_toNat : c.isUpper = true ↔ 65 ≤ c.toNat ∧ c.toNat ≤ 90 := by
  rw [Char.isUpper, decide_eq_true_eq]
  exact Iff.rfl

theorem isLower_iff_toNat : c.isLower = true ↔ 97 ≤ c.toNat ∧ c.toNat ≤ 122 := by
  rw [Char.isLower, Bool.and_eq_true, decide_eq_true_eq, decide_eq_true_eq]
  exact Iff.rfl

theorem isAlpha_iff_toNat :
    c.isAlpha = true ↔ (65 ≤ c.toNat ∧ c.toNat ≤ 90) ∨ (97 ≤ c.toNat ∧ c.toNat ≤ 122) := by
  rw [Char.isAlpha, Bool.or_eq_true, isUpper_iff_toNat, isLower_iff_toNat]

/-- A digit is no letter. -/
theorem isAlpha_of_isDigit (h : c.isDigit = true) : c.isAlpha = false := by
  obtain ⟨low, high⟩ : 48 ≤ c.toNat ∧ c.toNat ≤ 57 := Char.isDigit_iff_toNat.1 h
  rw [Bool.eq_false_iff, ne_eq, isAlpha_iff_toNat]
  omega

theorem isDigit_of_isAlpha (h : c.isAlpha = true) : c.isDigit = false :=
  Bool.eq_false_iff.2 fun digit => Bool.eq_false_iff.1 (isAlpha_of_isDigit digit) h

theorem isAlphanumeric_iff (ascii : c.toNat < 0x80) :
    isAlphanumeric c = true ↔ c.isAlpha = true ∨ c.isDigit = true := by
  rw [isAlphanumeric, isAlphabetic, isNumeric, if_pos ascii, if_pos ascii, Bool.or_eq_true]

/-! ## Upper and lower case -/

theorem toUpper_of_isDigit (h : c.isDigit = true) : c.toUpper = c := by
  refine Char.toUpper_eq_of_not_isLower fun lower => ?_
  have letter : c.isAlpha = true := by rw [Char.isAlpha, lower, Bool.or_true]
  exact Bool.eq_false_iff.1 (isAlpha_of_isDigit h) letter

theorem toLower_of_isDigit (h : c.isDigit = true) : c.toLower = c := by
  refine Char.toLower_eq_of_not_isUpper fun upper => ?_
  have letter : c.isAlpha = true := by rw [Char.isAlpha, upper, Bool.true_or]
  exact Bool.eq_false_iff.1 (isAlpha_of_isDigit h) letter

theorem ascii_of_isDigit (h : c.isDigit = true) : c.toNat < 0x80 :=
  lt_of_le_of_lt (Char.isDigit_iff_toNat.1 h).2 (by decide)

theorem upperChar_of_isDigit (h : c.isDigit = true) : upperChar c = [c] := by
  rw [upperChar, if_pos (ascii_of_isDigit h), toUpper_of_isDigit h]

theorem lowerChar_of_isDigit (h : c.isDigit = true) : lowerChar c = [c] := by
  rw [lowerChar, if_pos (ascii_of_isDigit h), toLower_of_isDigit h]

theorem isCapital_eq (ascii : c.toNat < 0x80) : isCapital c = c.isUpper := by
  rw [isCapital, upperChar, lowerChar, if_pos ascii, if_pos ascii, Bool.eq_iff_iff]
  simp only [Bool.and_eq_true, bne_iff_ne, beq_iff_eq, ne_eq, List.cons.injEq, and_true]
  constructor
  · rintro ⟨differ, upper⟩
    by_contra none
    exact differ (upper.trans (Char.toLower_eq_of_not_isUpper none).symm)
  · intro upper
    have own : c.toUpper = c := Char.toUpper_eq_of_not_isLower (Char.not_isLower_of_isUpper upper)
    refine ⟨fun same => ?_, own⟩
    have low : c.isUpper = false := by rw [← own, same, Char.isUpper_toLower_eq_false]
    exact Bool.eq_false_iff.1 low upper

theorem isSmall_eq (ascii : c.toNat < 0x80) : isSmall c = c.isLower := by
  rw [isSmall, upperChar, lowerChar, if_pos ascii, if_pos ascii, Bool.eq_iff_iff]
  simp only [Bool.and_eq_true, bne_iff_ne, beq_iff_eq, ne_eq, List.cons.injEq, and_true]
  constructor
  · rintro ⟨differ, lower⟩
    by_contra none
    exact differ ((Char.toUpper_eq_of_not_isLower none).trans lower.symm)
  · intro lower
    have own : c.toLower = c := Char.toLower_eq_of_not_isUpper (Char.not_isUpper_of_isLower lower)
    refine ⟨fun same => ?_, own⟩
    have upper : c.isLower = false := by rw [← own, ← same, Char.isLower_toUpper_eq_false]
    exact Bool.eq_false_iff.1 upper lower

/-! ## Texts -/

/-- A text of ASCII. -/
def IsAscii (cs : List Char) : Prop := ∀ c ∈ cs, c.toNat < 0x80

theorem lowerFrom_of_isAscii : ∀ {cs : List Char} (before : List Char), IsAscii cs →
    lowerFrom before cs = cs.map Char.toLower
  | [], _, _ => rfl
  | c :: rest, before, h => by
    obtain ⟨ascii, others⟩ := List.forall_mem_cons.1 h
    have sigma : (c == 'Σ') = false := by
      rw [beq_eq_false_iff_ne]
      rintro rfl
      exact absurd ascii (by decide)
    unfold lowerFrom
    simp only [sigma]
    rw [lowerFrom_of_isAscii _ others, lowerChar, if_pos ascii]
    rfl

theorem lowerText_of_isAscii (h : IsAscii cs) : lowerText cs = cs.map Char.toLower := lowerFrom_of_isAscii [] h

theorem upperText_of_isAscii : ∀ {cs : List Char}, IsAscii cs → upperText cs = cs.map Char.toUpper
  | [], _ => rfl
  | c :: rest, h => by
    obtain ⟨ascii, others⟩ := List.forall_mem_cons.1 h
    show upperChar c ++ upperText rest = _
    rw [upperText_of_isAscii others, upperChar, if_pos ascii]
    rfl

theorem capitalize_of_isAscii {rest : List Char} (h : IsAscii (c :: rest)) :
    capitalize (c :: rest) = c.toUpper :: rest.map Char.toLower := by
  obtain ⟨ascii, others⟩ := List.forall_mem_cons.1 h
  rw [capitalize, lowerText_of_isAscii others, upperChar, if_pos ascii]
  rfl

theorem toLower_ascii (h : c.toNat < 0x80) : c.toLower.toNat < 0x80 := by
  by_cases upper : c.isUpper = true
  · have letter : c.toLower.isAlpha = true := by rw [Char.isAlpha_toLower_eq_isAlpha, Char.isAlpha, upper, Bool.true_or]
    rw [isAlpha_iff_toNat] at letter
    omega
  · rwa [Char.toLower_eq_of_not_isUpper upper]

theorem toUpper_ascii (h : c.toNat < 0x80) : c.toUpper.toNat < 0x80 := by
  by_cases lower : c.isLower = true
  · have letter : c.toUpper.isAlpha = true := by rw [Char.isAlpha_toUpper_eq_isAlpha, Char.isAlpha, lower, Bool.or_true]
    rw [isAlpha_iff_toNat] at letter
    omega
  · rwa [Char.toUpper_eq_of_not_isLower lower]

theorem IsAscii.map_toLower (h : IsAscii cs) : IsAscii (cs.map Char.toLower) := by
  intro d hd
  obtain ⟨c, hc, rfl⟩ := List.mem_map.1 hd
  exact toLower_ascii (h c hc)

theorem IsAscii.capitalize (h : IsAscii cs) : IsAscii (capitalize cs) := by
  cases cs with
  | nil => exact h
  | cons c rest =>
    obtain ⟨front, others⟩ := List.forall_mem_cons.1 h
    rw [capitalize_of_isAscii h]
    exact List.forall_mem_cons.2 ⟨toUpper_ascii front, IsAscii.map_toLower others⟩

theorem lowerText_lowerText (h : IsAscii cs) : lowerText (lowerText cs) = lowerText cs := by
  rw [lowerText_of_isAscii h, lowerText_of_isAscii h.map_toLower, List.map_map]
  exact List.map_congr_left fun c _ => Char.toLower_toLower_eq_toLower c

theorem upperText_lowerText (h : IsAscii cs) : upperText (lowerText cs) = upperText cs := by
  rw [lowerText_of_isAscii h, upperText_of_isAscii h, upperText_of_isAscii h.map_toLower, List.map_map]
  exact List.map_congr_left fun c _ => Char.toUpper_toLower_eq_toUpper c

theorem capitalize_lowerText (h : IsAscii cs) : capitalize (lowerText cs) = capitalize cs := by
  cases cs with
  | nil => rfl
  | cons c rest =>
    have lower := h.map_toLower
    rw [lowerText_of_isAscii h, capitalize_of_isAscii h]
    rw [List.map_cons] at lower ⊢
    rw [capitalize_of_isAscii lower, Char.toUpper_toLower_eq_toUpper, List.map_map]
    congr 1
    exact List.map_congr_left fun c _ => Char.toLower_toLower_eq_toLower c

theorem lowerText_capitalize (h : IsAscii cs) : lowerText (capitalize cs) = lowerText cs := by
  cases cs with
  | nil => rfl
  | cons c rest =>
    rw [lowerText_of_isAscii h.capitalize, capitalize_of_isAscii h, lowerText_of_isAscii h, List.map_cons, List.map_cons,
      Char.toLower_toUpper_eq_toLower, List.map_map]
    congr 1
    exact List.map_congr_left fun c _ => Char.toLower_toLower_eq_toLower c

theorem lowerText_append {ds : List Char} (h : IsAscii cs) (hd : IsAscii ds) :
    lowerText (cs ++ ds) = lowerText cs ++ lowerText ds := by
  rw [lowerText_of_isAscii (List.forall_mem_append.2 ⟨h, hd⟩), lowerText_of_isAscii h, lowerText_of_isAscii hd,
    List.map_append]

theorem capitalize_append {ds : List Char} (filled : cs ≠ []) (h : IsAscii cs) (hd : IsAscii ds) :
    capitalize (cs ++ ds) = capitalize cs ++ lowerText ds := by
  obtain ⟨c, rest, rfl⟩ := List.exists_cons_of_ne_nil filled
  show upperChar c ++ lowerText (rest ++ ds) = upperChar c ++ lowerText rest ++ lowerText ds
  rw [lowerText_append (List.forall_mem_cons.1 h).2 hd, List.append_assoc]

end SchemaClasses.Text
