/-
Floating-point numbers from digits, the quick way: the leading digits that fit a 64-bit word are
taken as a number, and that number is multiplied or divided by a power of ten once. The result can
be one place off the nearest number in its last binary digit.
-/
namespace SchemaClasses.Decimal

/-- The largest 64-bit word. -/
def maxWord : Nat := 0xFFFFFFFFFFFFFFFF

/-- Appends digits to a word for as long as the result fits a word; the second part is the digits
left over. -/
def absorb (word : Nat) : List Nat → Nat × List Nat
  | [] => (word, [])
  | d :: rest =>
    if word * 10 + d ≤ maxWord then absorb (word * 10 + d) rest else (word, d :: rest)

/-- The power of ten, for exponents up to 308. -/
def powerOfTen (exponent : Nat) : Float := Float.ofScientific 1 false exponent

/-- Divides by `10 ^ exponent`, in steps that stay within the range of the powers of ten. -/
def divide (x : Float) (exponent : Nat) : Float :=
  if exponent ≤ 308 then x / powerOfTen exponent
  else if x == 0 then x
  else divide (x / powerOfTen 308) (exponent - 308)
termination_by exponent
decreasing_by omega

/-- `word · 10 ^ exponent`; absent when it is beyond the largest number. -/
def scaled (word : Nat) (exponent : Int) : Option Float :=
  let x := word.toUInt64.toFloat
  if exponent < 0 then some (divide x (-exponent).toNat)
  else if 308 < exponent then if x == 0 then some x else none
  else
    let y := x * powerOfTen exponent.toNat
    if y.isInf then none else some y

end SchemaClasses.Decimal
