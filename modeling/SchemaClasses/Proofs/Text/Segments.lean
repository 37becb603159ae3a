/-
Texts cut at a separator: the parts of two texts with a separator between them are those of each.
-/
import SchemaClasses.Text.Segments

namespace SchemaClasses.Text

variable {separator : Char} {cs : List Char}

theorem segments_ne_nil (separator : Char) : ∀ cs, segments separator cs ≠ []
  | [] => by simp [segments]
  | c :: rest => by
    rw [segments]
    split
    · exact List.cons_ne_nil _ _
    · split <;> exact List.cons_ne_nil _ _

theorem segments_cons_of_ne {c : Char} (h : c ≠ separator) {first : List Char} {others : List (List Char)}
    (hs : segments separator cs = first :: others) : segments separator (c :: cs) = (c :: first) :: others := by
  rw [segments, if_neg h, hs]

theorem segments_append (before after : List Char) : segments separator (before ++ separator :: after) =
    segments separator before ++ segments separator after := by
  induction before with
  | nil => simp [segments]
  | cons c rest ih =>
    rw [List.cons_append]
    by_cases h : c = separator
    · rw [segments, if_pos h, segments, if_pos h, ih, List.cons_append]
    · obtain ⟨first, others, hs⟩ := List.exists_cons_of_ne_nil (segments_ne_nil separator rest)
      rw [hs] at ih
      rw [segments_cons_of_ne h hs]
      exact segments_cons_of_ne h ih

theorem segments_of_not_mem (h : separator ∉ cs) : segments separator cs = [cs] := by
  induction cs with
  | nil => rfl
  | cons c rest ih =>
    rw [List.mem_cons, not_or] at h
    exact segments_cons_of_ne (Ne.symm h.1) (ih h.2)

end SchemaClasses.Text
