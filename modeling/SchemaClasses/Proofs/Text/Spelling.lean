/-
How the words of a name are written. Each of the usual ways writes the first word on its own and every other word
behind it; the words together are the letters and numbers of the raw name, and what separates them is gone.
-/
import SchemaClasses.Proofs.Text.SnakeCase

namespace SchemaClasses

open Text

variable {c : Char} {cs : List Char}

/-! ## Ways of writing words -/

/-- How the first word and the others stand in a name. -/
structure Spelling where
  first : List Char → List Char
  later : List Char → List Char

namespace Spelling

/-- The words in one name. -/
def write (s : Spelling) : List (List Char) → List Char
  | [] => []
  | word :: others => s.first word ++ others.flatMap s.later

def pascal : Spelling := ⟨capitalize, capitalize⟩
def camel : Spelling := ⟨lowerText, capitalize⟩
def snake : Spelling := ⟨lowerText, fun word => '_' :: lowerText word⟩
def upperSnake : Spelling := ⟨upperText, fun word => '_' :: upperText word⟩

theorem write_pascal (cs : List Char) : pascal.write (words cs) = pascalCase cs := by
  rw [pascalCase]
  cases words cs <;> rfl

theorem write_camel (cs : List Char) : camel.write (words cs) = camelCase cs := by
  rw [camelCase]
  cases words cs <;> rfl

/-- An underscore between words is one in front of every word but the first. -/
theorem intercalate_underscore (spell : List Char → List Char) : ∀ ws : List (List Char),
    ['_'].intercalate (ws.map spell) = write ⟨spell, fun word => '_' :: spell word⟩ ws
  | [] => rfl
  | [word] => by
    rw [List.map_singleton, List.intercalate_singleton]
    exact (List.append_nil _).symm
  | word :: next :: rest => by
    rw [List.map_cons, List.map_cons, List.intercalate_cons_cons, ← List.map_cons,
      intercalate_underscore spell (next :: rest), List.append_assoc]
    rfl

theorem write_snake (cs : List Char) : snake.write (words cs) = snakeCase cs := (intercalate_underscore _ _).symm

theorem write_upperSnake (cs : List Char) : upperSnake.write (words cs) = upperSnakeCase cs :=
  (intercalate_underscore _ _).symm

/-- A character of a name comes from one of its words. -/
theorem mem_write {s : Spelling} {ws : List (List Char)} (h : c ∈ s.write ws) :
    ∃ word ∈ ws, c ∈ s.first word ∨ c ∈ s.later word := by
  cases ws with
  | nil => cases h
  | cons word others =>
    rcases List.mem_append.1 h with h | h
    · exact ⟨word, List.mem_cons_self, .inl h⟩
    · obtain ⟨other, ho, h⟩ := List.mem_flatMap.1 h
      exact ⟨other, List.mem_cons_of_mem _ ho, .inr h⟩

end Spelling

/-! ## What the words hold -/

theorem flatten_wordsAfter : ∀ (cs : List Char) (left : Option Char) (word : List Char),
    (wordsAfter left word cs).flatten = word ++ cs.filter (!isSeparator ·)
  | [], _, word => by simp [wordsAfter]
  | c :: rest, left, word => by
    unfold wordsAfter
    split
    · rename_i separator
      rw [List.flatten_cons, flatten_wordsAfter rest, List.filter_cons_of_neg (by simp [separator])]
      rfl
    · rename_i inWord
      rw [List.filter_cons_of_pos (by simpa using inWord)]
      split
      · rw [List.flatten_cons, flatten_wordsAfter rest]
        rfl
      · rw [flatten_wordsAfter rest, List.append_assoc]
        rfl

/-- The words of a text are the text without what separates them. -/
theorem flatten_words (cs : List Char) : (words cs).flatten = cs.filter (!isSeparator ·) := by
  rw [words, List.flatten_filter_not_isEmpty, flatten_wordsAfter]
  rfl

theorem isSeparator_of_isAlphanumeric (h : isAlphanumeric c = true) : isSeparator c = false := by
  rw [Bool.eq_false_iff]
  intro separator
  have none : isAlphanumeric '_' = false ∧ isAlphanumeric '-' = false ∧ isAlphanumeric ' ' = false := by decide +kernel
  simp only [isSeparator, Bool.or_eq_true, beq_iff_eq] at separator
  rcases separator with (rfl | rfl) | rfl
  · exact absurd h (Bool.eq_false_iff.1 none.1)
  · exact absurd h (Bool.eq_false_iff.1 none.2.1)
  · exact absurd h (Bool.eq_false_iff.1 none.2.2)

theorem filter_dropWhile {drop keep : Char → Bool} (h : ∀ c ∈ cs, drop c = true → keep c = false) :
    (cs.dropWhile drop).filter keep = cs.filter keep := by
  have front : (cs.takeWhile drop).filter keep = [] := by
    rw [List.filter_eq_nil_iff]
    intro c hc
    rw [h c ((List.takeWhile_prefix drop).mem hc) (List.mem_takeWhile_imp hc)]
    exact Bool.false_ne_true
  calc (cs.dropWhile drop).filter keep
      = (cs.takeWhile drop).filter keep ++ (cs.dropWhile drop).filter keep := by rw [front, List.nil_append]
    _ = cs.filter keep := by rw [← List.filter_append, List.takeWhile_append_dropWhile]

theorem filter_trimBoth {drop keep : Char → Bool} (h : ∀ c ∈ cs, drop c = true → keep c = false) :
    (trimBoth drop cs).filter keep = cs.filter keep := by
  have rest : ∀ c ∈ (trimStart drop cs).reverse, drop c = true → keep c = false := fun c hc =>
    h c ((List.dropWhile_suffix drop).mem (List.mem_reverse.1 hc))
  rw [trimBoth, trimEnd, List.filter_reverse, filter_dropWhile rest, List.filter_reverse, List.reverse_reverse, trimStart,
    filter_dropWhile h]

/-- The words of a raw name are its letters and numbers. -/
theorem flatten_words_sanitize (raw : List Char) : (words (sanitize raw)).flatten = raw.filter isAlphanumeric := by
  have blanks : ∀ c ∈ spaced raw, isBlank c = true → (!isSeparator c) = false := fun c hc blank => by
    rw [isSeparator_of_mem_spaced hc blank]
    rfl
  have kept : ((fun c => !isSeparator c) ∘ fun c => if isAlphanumeric c || c == '_' then c else ' ') = isAlphanumeric := by
    funext c
    show (!isSeparator (if isAlphanumeric c || c == '_' then c else ' ')) = _
    cases letter : isAlphanumeric c with
    | true =>
      rw [Bool.true_or, if_pos rfl, isSeparator_of_isAlphanumeric letter]
      rfl
    | false =>
      rw [Bool.false_or]
      split
      · rename_i underscore
        rw [beq_iff_eq.1 underscore]
        rfl
      · rfl
  show (words (trimBoth isBlank (spaced raw))).flatten = _
  rw [flatten_words, filter_trimBoth blanks, spaced, List.filter_map, kept]
  refine (List.map_congr_left fun c hc => ?_).trans (List.map_id _)
  rw [(List.mem_filter.1 hc).2]
  rfl

theorem isAlphanumeric_of_mem_words {raw word : List Char} (hw : word ∈ words (sanitize raw)) (hc : c ∈ word) :
    isAlphanumeric c = true := by
  have own : c ∈ raw.filter isAlphanumeric := flatten_words_sanitize raw ▸ List.mem_flatten.2 ⟨word, hw, hc⟩
  exact (List.mem_filter.1 own).2

end SchemaClasses
