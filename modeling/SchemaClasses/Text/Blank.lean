/-
Blank characters (the property White_Space), and text without its blank ends.
-/
import SchemaClasses.Text.CharRange

namespace SchemaClasses.Text

/-- The blank characters beyond ASCII. -/
def blankRanges : List (Nat × Nat) := [
  (0x85, 0x85), (0xA0, 0xA0), (0x1680, 0x1680), (0x2000, 0x200A), (0x2028, 0x2029),
   (0x202F, 0x202F), (0x205F, 0x205F), (0x3000, 0x3000)]

/-- Whether a character has the property White_Space. -/
def isBlank (c : Char) : Bool :=
  if c.toNat < 0x80 then c == ' ' || (9 ≤ c.toNat && c.toNat ≤ 13)
  else inRanges blankRanges c.toNat

/-- The characters without those at the front that satisfy the test. -/
def trimStart (drop : Char → Bool) (cs : List Char) : List Char := cs.dropWhile drop

/-- The characters without those at the end that satisfy the test. -/
def trimEnd (drop : Char → Bool) (cs : List Char) : List Char := (cs.reverse.dropWhile drop).reverse

/-- The characters without those at either end that satisfy the test. -/
def trimBoth (drop : Char → Bool) (cs : List Char) : List Char := trimEnd drop (trimStart drop cs)

/-- The text without blank characters at its ends. -/
def trimBlank (s : String) : String := String.ofList (trimBoth isBlank s.toList)

/-- The text without backslashes at its ends. -/
def trimBackslashes (s : String) : String := String.ofList (trimBoth (· == '\\') s.toList)

end SchemaClasses.Text
