import GraphIngest.Decimal.Binary

/-!
# Shortest decimals

The shortest decimal of a binary number has the fewest digits among those that round to it, and of
these it is the nearest. It is found by trying one digit, then two, and so on: on each decimal grid
only the two neighbours of the number need to be tried.

## Main definitions

* `Decimal`: digits times a power of ten.
* `BinaryFloat.shortest`: the shortest decimal that reads back.
-/

namespace GraphIngest

/-- A nonnegative decimal, `digits * 10 ^ exponent`. -/
structure Decimal where
  digits : Nat
  exponent : Int
  deriving DecidableEq, Repr, Inhabited

namespace Decimal

/-- The same decimal without zeros at the end. -/
def strip (d : Decimal) : Decimal :=
  if h : d.digits ≠ 0 ∧ d.digits % 10 = 0 then strip ⟨d.digits / 10, d.exponent + 1⟩ else d
termination_by d.digits
decreasing_by omega

/-- The exponent of the leading digit of a quotient that is not zero. -/
def leadingDigit (num den : Nat) : Int :=
  if den ≤ num then (Nat.toDigits 10 (num / den)).length - 1
  else -((Nat.toDigits 10 ((den - 1) / num)).length : Int)

end Decimal

/-- The numbers that round to a binary number, in quarters of its last place: everything between
`lower` and `upper`, with both ends if `closed`. One quarter is `unitNum / unitDen`. -/
structure RoundingInterval where
  lower : Nat
  centre : Nat
  upper : Nat
  closed : Bool
  unitNum : Nat
  unitDen : Nat

namespace RoundingInterval

/-- The interval of a number. Below a power of two the neighbours are twice as close. -/
def of (f : FloatFormat) (x : BinaryFloat) : RoundingInterval :=
  let m := x.mantissa
  let below := if m = Nat.pow 2 (f.precision - 1) ∧ f.least < x.exponent then 1 else 2
  let e := x.exponent - 2
  { lower := 4 * m - below, centre := 4 * m, upper := 4 * m + 2, closed := m % 2 = 0,
    unitNum := if 0 ≤ e then Nat.pow 2 e.toNat else 1,
    unitDen := if 0 ≤ e then 1 else Nat.pow 2 (-e).toNat }

/-- What multiplies a digit count and what multiplies quarters, to compare both on the grid of
`10 ^ k`. -/
def scales (i : RoundingInterval) (k : Int) : Nat × Nat :=
  if 0 ≤ k then (i.unitDen * Nat.pow 10 k.toNat, i.unitNum)
  else (i.unitDen, i.unitNum * Nat.pow 10 (-k).toNat)

/-- Whether `d * 10 ^ k` lies in the interval. -/
def contains (i : RoundingInterval) (k : Int) (d : Nat) : Bool :=
  let (a, b) := i.scales k
  if i.closed then i.lower * b ≤ d * a && d * a ≤ i.upper * b
  else i.lower * b < d * a && d * a < i.upper * b

/-- The grid point of `10 ^ k` next below the centre. -/
def floor (i : RoundingInterval) (k : Int) : Nat :=
  i.centre * (i.scales k).2 / (i.scales k).1

/-- Of the two grid points around the centre the nearer one; a tie goes to the even one. -/
def nearest (i : RoundingInterval) (k : Int) : Nat :=
  roundQuotient (i.centre * (i.scales k).2) (i.scales k).1

/-- The best grid point of `10 ^ k` inside the interval. -/
def pick (i : RoundingInterval) (k : Int) : Option Nat :=
  let d := i.floor k
  match i.contains k d, i.contains k (d + 1) with
  | true, true => some (i.nearest k)
  | true, false => some d
  | false, true => some (d + 1)
  | false, false => none

/-- The first grid with a point in the interval, from `10 ^ k` downwards; after `more` finer grids
the nearest point is taken. -/
def search (i : RoundingInterval) (k : Int) : (more : Nat) → Decimal
  | 0 => ⟨i.nearest k, k⟩
  | more + 1 =>
    match i.pick k with
    | some d => ⟨d, k⟩
    | none => search i (k - 1) more

end RoundingInterval

/-- The shortest decimal that rounds to the magnitude of a number, without zeros at its end.
Seventeen digits are always enough for the formats in use. -/
def BinaryFloat.shortest (f : FloatFormat) (x : BinaryFloat) : Decimal :=
  if x.mantissa = 0 then ⟨0, 0⟩
  else
    ((RoundingInterval.of f x).search (Decimal.leadingDigit x.quotient.1 x.quotient.2) 17).strip

end GraphIngest
