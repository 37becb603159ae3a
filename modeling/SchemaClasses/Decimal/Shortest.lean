/-
The shortest decimal of a floating-point number: the fewest digits that read back as the number,
and of those the nearest to it. All comparisons are exact, on natural numbers.
-/
namespace SchemaClasses.Decimal

/-- The number `coefficient · 10 ^ exponent`. -/
structure Scientific where
  coefficient : Nat
  exponent : Int
  deriving Repr, DecidableEq

/-- A positive number `mantissa · 2 ^ power` with the interval of numbers that round to it. The
bounds are counted in quarters of the last binary place. -/
structure Rounding where
  mantissa : Nat
  power : Int
  /-- The lower bound, in quarters. -/
  below : Nat
  /-- The upper bound, in quarters. -/
  above : Nat
  /-- Whether the bounds themselves round to the number. -/
  closed : Bool
  deriving Repr, DecidableEq

/-- The rounding interval of a floating-point number with the given bits, sign left out. -/
def Rounding.ofBits (bits : Nat) : Rounding :=
  let biased : Nat := bits / 0x10000000000000 % 0x800
  let fraction : Nat := bits % 0x10000000000000
  let mantissa := if biased = 0 then fraction else fraction + 0x10000000000000
  let power : Int := if biased = 0 then -1074 else (biased : Int) - 1075
  -- below a power of two the numbers lie twice as close
  let gap := if fraction = 0 ∧ 1 < biased then 1 else 2
  ⟨mantissa, power, 4 * mantissa - gap, 4 * mantissa + 2, mantissa % 2 = 0⟩

/-- The fraction by which one quarter of the last binary place exceeds `10 ^ place`. -/
def quarterOver (power place : Int) : Nat × Nat :=
  (Nat.pow 2 (power - 2).toNat * Nat.pow 10 (-place).toNat,
    Nat.pow 2 (2 - power).toNat * Nat.pow 10 place.toNat)

/-- Whether `c · 10 ^ place` rounds to the number. -/
def Rounding.admits (r : Rounding) (place : Int) (c : Nat) : Bool :=
  let (num, den) := quarterOver r.power place
  let low := r.below * num
  let high := r.above * num
  if r.closed then low ≤ c * den && c * den ≤ high else low < c * den && c * den < high

/-- The point of the grid `10 ^ place` that reads back as the number, the nearer one if there are
two neighbours that do, and the even one if they are equally near. -/
def Rounding.onGrid? (r : Rounding) (place : Int) : Option Scientific :=
  let (num, den) := quarterOver r.power place
  let exact := 4 * r.mantissa * num
  let floor := exact / den
  let twice := 2 * (exact % den)
  let up := den < twice || (den == twice && floor % 2 == 1)
  match r.admits place floor, r.admits place (floor + 1) with
  | true, true => some ⟨if up then floor + 1 else floor, place⟩
  | true, false => some ⟨floor, place⟩
  | false, true => some ⟨floor + 1, place⟩
  | false, false => none

/-- The least `e`, from a start at or below it, such that the number lies below `10 ^ e`. -/
def Rounding.digitsBefore (r : Rounding) : Nat → Int → Int
  | 0, e => e
  | steps + 1, e =>
    let (num, den) := quarterOver r.power e
    if 4 * r.mantissa * num < den then e else r.digitsBefore steps (e + 1)

/-- The same number with no zero at the end of its coefficient. -/
def Scientific.strip : Nat → Scientific → Scientific
  | 0, s => s
  | steps + 1, s =>
    if s.coefficient ≠ 0 ∧ s.coefficient % 10 = 0 then
      Scientific.strip steps ⟨s.coefficient / 10, s.exponent + 1⟩
    else s

/-- The shortest decimal: grids of one digit, two digits and so on are tried in turn; seventeen
digits always suffice. -/
def Rounding.shortest (r : Rounding) : Scientific :=
  -- the decimal logarithm, estimated from below
  let guess : Int := ((r.mantissa.log2 : Int) + r.power) * 30103 / 100000 - 1
  let top := r.digitsBefore 6 guess
  let found := (List.range 17).findSome? fun (n : Nat) => r.onGrid? (top - ((n : Int) + 1))
  (found.getD ⟨0, 0⟩).strip 17

/-- The shortest decimal of the absolute value of a finite number. -/
def shortest (x : Float) : Scientific :=
  let bits := x.toBits.toNat % 0x8000000000000000
  if bits = 0 then ⟨0, 0⟩ else (Rounding.ofBits bits).shortest

/-- Whether the sign bit is set. -/
def isNegative (x : Float) : Bool := x.toBits.toNat / 0x8000000000000000 % 2 == 1

end SchemaClasses.Decimal
