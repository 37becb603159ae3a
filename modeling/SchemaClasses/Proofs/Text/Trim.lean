/-
Texts without certain characters at their ends, and texts cut at the last separator.
-/
import SchemaClasses.Text.Blank
import SchemaClasses.Proofs.Text.Segments
import Mathlib.Data.List.DropRight

namespace SchemaClasses.Text

variable {drop : Char → Bool} {cs : List Char}

/-! ## Trimming -/

theorem trimStart_eq_self (h : ∀ c, cs.head? = some c → drop c = false) : trimStart drop cs = cs := by
  cases cs with
  | nil => rfl
  | cons c rest => simp [trimStart, h c rfl]

theorem head?_trimStart {c : Char} (h : (trimStart drop cs).head? = some c) : drop c = false := by
  induction cs with
  | nil => cases h
  | cons first rest ih =>
    unfold trimStart at h ih
    rw [List.dropWhile_cons] at h
    split at h
    · exact ih h
    · rename_i hd
      cases h
      simpa using hd

theorem prefix_trimEnd : trimEnd drop cs <+: cs := List.rdropWhile_prefix drop cs

theorem trimEnd_append (before after : List Char) : trimEnd drop (before ++ after) =
    if trimEnd drop after = [] then trimEnd drop before else before ++ trimEnd drop after := by
  simp only [trimEnd, List.reverse_append, List.dropWhile_append, List.reverse_eq_nil_iff, List.isEmpty_iff]
  split
  · rfl
  · rw [List.reverse_append, List.reverse_reverse]

theorem trimEnd_eq_nil : trimEnd drop cs = [] ↔ ∀ c ∈ cs, drop c = true := List.rdropWhile_eq_nil_iff

/-- A text that was trimmed does not begin with a character that is dropped. -/
theorem head?_trimBoth {c : Char} (h : (trimBoth drop cs).head? = some c) : drop c = false := by
  obtain ⟨tail, ht⟩ := @prefix_trimEnd drop (trimStart drop cs)
  apply @head?_trimStart drop cs
  rw [← ht, List.head?_append]
  unfold trimBoth at h
  rw [h]
  rfl

theorem trimBoth_trimBoth : trimBoth drop (trimBoth drop cs) = trimBoth drop cs := by
  have start : trimStart drop (trimBoth drop cs) = trimBoth drop cs := trimStart_eq_self fun _ => head?_trimBoth
  rw [trimBoth, start, trimBoth]
  exact List.rdropWhile_idempotent drop _

/-- Between two trimmed texts nothing is dropped. -/
theorem trimBoth_between {before after : List Char} (hb : trimBoth drop before = before) (ha : trimBoth drop after = after)
    (filled : before ≠ [] ∧ after ≠ []) (middle : List Char) :
    trimBoth drop (before ++ middle ++ after) = before ++ middle ++ after := by
  have start : trimStart drop (before ++ middle ++ after) = before ++ middle ++ after := by
    refine trimStart_eq_self fun c hc => @head?_trimBoth drop before c ?_
    rwa [hb, ← List.head?_append_of_ne_nil before filled.1, ← List.append_assoc]
  have last : trimEnd drop after = after := by
    have same : trimStart drop after = after := trimStart_eq_self fun c hc => head?_trimBoth (ha.symm ▸ hc)
    rwa [trimBoth, same] at ha
  rw [trimBoth, start, trimEnd_append, last, if_neg filled.2]

/-- A text without empty parts has no separators at its ends. -/
theorem trimBoth_of_segments {separator : Char} (h : [] ∉ segments separator cs) :
    trimBoth (· == separator) cs = cs := by
  have start : trimStart (· == separator) cs = cs := by
    refine trimStart_eq_self fun c hc => beq_eq_false_iff_ne.2 ?_
    rintro rfl
    obtain ⟨rest, rfl⟩ := List.head?_eq_some_iff.1 hc
    exact h (by simp [segments])
  rw [trimBoth, start]
  refine List.rdropWhile_eq_self_iff.2 fun filled hl => h ?_
  -- behind a separator at the end there is an empty part
  rw [beq_iff_eq] at hl
  rw [← List.dropLast_append_getLast filled, hl, segments_append]
  simp [segments]

theorem trimBackslashes_trimBackslashes (s : String) :
    trimBackslashes (trimBackslashes s) = trimBackslashes s := by
  unfold trimBackslashes
  rw [String.toList_ofList, trimBoth_trimBoth]

theorem toList_trimBackslashes (s : String) : (trimBackslashes s).toList = trimBoth (· == '\\') s.toList := by
  rw [trimBackslashes, String.toList_ofList]

/-! ## Cutting -/

variable {separator : Char} {before after : List Char}

/-- A text with a separator in it has a last one. -/
theorem exists_last_separator (h : separator ∈ cs) :
    ∃ before after, cs = before ++ separator :: after ∧ separator ∉ after := by
  obtain ⟨after, before, hc, hn⟩ := List.eq_append_cons_of_mem (List.mem_reverse.2 h)
  refine ⟨before.reverse, after.reverse, ?_, fun hm => hn (List.mem_reverse.1 hm)⟩
  rw [← List.reverse_reverse cs, hc]
  simp

theorem afterLast_append (h : separator ∉ after) : afterLast separator (before ++ separator :: after) = after := by
  unfold afterLast
  rw [List.reverse_append, List.reverse_cons, List.append_assoc, List.takeWhile_append_of_pos]
  · simp
  · intro c hc
    rw [List.mem_reverse] at hc
    exact bne_iff_ne.2 fun he => h (he ▸ hc)

theorem beforeLast_append (h : separator ∉ after) : beforeLast separator (before ++ separator :: after) = before := by
  unfold beforeLast
  rw [List.reverse_append, List.reverse_cons, List.append_assoc, List.dropWhile_append_of_pos]
  · simp
  · intro c hc
    rw [List.mem_reverse] at hc
    exact bne_iff_ne.2 fun he => h (he ▸ hc)

theorem afterLast_of_not_mem (h : separator ∉ cs) : afterLast separator cs = cs := by
  unfold afterLast
  rw [List.takeWhile_eq_self_iff.2, List.reverse_reverse]
  intro c hc
  rw [List.mem_reverse] at hc
  exact bne_iff_ne.2 fun he => h (he ▸ hc)

theorem beforeLast_of_not_mem (h : separator ∉ cs) : beforeLast separator cs = [] := by
  unfold beforeLast
  rw [List.dropWhile_eq_nil_iff.2]
  · rfl
  · intro c hc
    rw [List.mem_reverse] at hc
    exact bne_iff_ne.2 fun he => h (he ▸ hc)

end SchemaClasses.Text
