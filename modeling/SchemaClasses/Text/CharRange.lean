/-
Sets of characters written as lists of closed ranges of code points: the form in which the
properties of the Unicode standard (version 17.0) are given in the modules beside this one.
-/
namespace SchemaClasses.Text

/-- Whether the code point lies in one of the ranges. -/
def inRanges (ranges : List (Nat × Nat)) (code : Nat) : Bool :=
  ranges.any fun range => range.1 ≤ code && code ≤ range.2

theorem inRanges_iff {ranges : List (Nat × Nat)} {code : Nat} :
    inRanges ranges code = true ↔ ∃ range ∈ ranges, range.1 ≤ code ∧ code ≤ range.2 := by
  simp [inRanges]

end SchemaClasses.Text
