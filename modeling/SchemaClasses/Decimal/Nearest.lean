/-
The floating-point number nearest to a decimal. The decimal is compared as a ratio of natural
numbers, so every digit counts; of two numbers that are equally near the one with the even mantissa
is taken.
-/
namespace SchemaClasses.Decimal

/-- The natural number nearest to a ratio, the even one of two. -/
def roundRatio (num den : Nat) : Nat :=
  let floor := num / den
  let twice := 2 * (num % den)
  if den < twice ∨ (twice = den ∧ floor % 2 = 1) then floor + 1 else floor

/-- A positive ratio counted in units of `2 ^ power`. -/
def inUnits (num den : Nat) (power : Int) : Nat × Nat :=
  (num * Nat.pow 2 (-power).toNat, den * Nat.pow 2 power.toNat)

/-- The power of two of the last binary place that a number near a positive ratio has. -/
def lastPlace (num den : Nat) : Int :=
  let guess : Int := (num.log2 : Int) - den.log2 - 52
  let (scaled, unit) := inUnits num den guess
  max (-1074) (if scaled < unit * 0x10000000000000 then guess - 1 else guess)

/-- The bits of the number nearest to a positive ratio; beyond the greatest number they are those of
infinity. -/
def ratioBits (num den : Nat) : Nat :=
  let power := lastPlace num den
  let (scaled, unit) := inUnits num den power
  let mantissa := roundRatio scaled unit
  if 971 < power then 0x7FF0000000000000
  else if mantissa < 0x10000000000000 then mantissa
  else (power + 1075).toNat * 0x10000000000000 + (mantissa - 0x10000000000000)

/-- The number nearest to `coefficient · 10 ^ exponent`, where `digits` is a bound of the number of
digits of the coefficient. Far beyond the range of floating-point numbers no power is formed. -/
def nearest (coefficient digits : Nat) (exponent : Int) : Float :=
  if coefficient = 0 ∨ digits + exponent < -400 then Float.ofBits 0
  else if 400 < exponent then Float.ofBits 0x7FF0000000000000
  else
    Float.ofBits (ratioBits (coefficient * Nat.pow 10 exponent.toNat)
      (Nat.pow 10 (-exponent).toNat)).toUInt64

end SchemaClasses.Decimal
