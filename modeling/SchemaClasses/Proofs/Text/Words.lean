/-
Words beside separators. A separator ends a word and belongs to none, so separators at the front change no
words, and small letters with a separator behind them are a word of their own.
-/
import SchemaClasses.Names
import SchemaClasses.Proofs.Text.Trim

namespace SchemaClasses.Text

variable {c : Char} {cs : List Char}

/-! ## Separators -/

/-- No word begins at a character because a separator stands before it. -/
theorem opensWord_of_separator (h : isSeparator c = true) (next : Char) (after : Option Char) :
    opensWord (some c) next after = false := by
  have neither : isSmall c = false ∧ isCapital c = false ∧ c.isDigit = false := by
    simp only [isSeparator, Bool.or_eq_true, beq_iff_eq] at h
    rcases h with (rfl | rfl) | rfl <;> decide +kernel
  obtain ⟨small, capital, digit⟩ := neither
  simp [opensWord, partsPair, endsCapitals, small, capital, digit]

/-- Behind a separator words are found as at the front of a text. -/
theorem wordsAfter_separator (h : isSeparator c = true) (word cs : List Char) :
    wordsAfter (some c) word cs = wordsAfter none word cs := by
  cases cs with
  | nil => rfl
  | cons next rest =>
    rw [wordsAfter, wordsAfter, opensWord_of_separator h]
    rfl

/-- Separators at the front change no words. -/
theorem words_append_of_separators : ∀ {front : List Char}, (∀ c ∈ front, isSeparator c = true) →
    ∀ cs, words (front ++ cs) = words cs
  | [], _, _ => rfl
  | c :: rest, all, cs => by
    obtain ⟨first, others⟩ := List.forall_mem_cons.1 all
    rw [← words_append_of_separators others cs]
    show (wordsAfter none [] (c :: (rest ++ cs))).filter _ = (wordsAfter none [] (rest ++ cs)).filter _
    rw [wordsAfter, if_pos first, wordsAfter_separator first]
    rfl

/-- A character that continues the word before it. -/
theorem wordsAfter_continues {left : Option Char} {word : List Char} (separator : isSeparator c = false)
    (opens : opensWord left c cs.head? = false) :
    wordsAfter left word (c :: cs) = wordsAfter (some c) (word ++ [c]) cs := by
  rw [wordsAfter, separator, opens]
  rfl

/-- What stands before an underscore is a word. -/
theorem words_for (cs : List Char) : words ("for_".toList ++ cs) = "for".toList :: words cs := by
  -- no two of the small letters are parted, whatever follows
  have opens : ∀ next, opensWord (some 'f') 'o' next = false ∧ opensWord (some 'o') 'r' next = false := by
    intro next
    have together : partsPair 'f' 'o' = false ∧ partsPair 'o' 'r' = false ∧ isCapital 'f' = false ∧
        isCapital 'o' = false := by decide +kernel
    obtain ⟨fo, or, f, o⟩ := together
    exact ⟨by simp [opensWord, endsCapitals, fo, f], by simp [opensWord, endsCapitals, or, o]⟩
  have letters : wordsAfter none [] ("for_".toList ++ cs) = wordsAfter (some 'r') "for".toList ('_' :: cs) := by
    show wordsAfter none [] ('f' :: 'o' :: 'r' :: '_' :: cs) = _
    rw [wordsAfter_continues (by decide) rfl, wordsAfter_continues (by decide) (opens _).1,
      wordsAfter_continues (by decide) (opens _).2]
    rfl
  have underscore : wordsAfter (some 'r') "for".toList ('_' :: cs) = "for".toList :: wordsAfter none [] cs := by
    rw [wordsAfter, if_pos (by decide), wordsAfter_separator (by decide)]
  rw [words, letters, underscore, List.filter_cons_of_pos rfl]
  rfl

end SchemaClasses.Text
