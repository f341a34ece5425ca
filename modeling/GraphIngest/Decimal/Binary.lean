/-!
# Binary floating-point numbers

A finite number is a signed mantissa times a power of two. A format bounds both, and rounds an exact
quotient to its nearest number, ties to the even mantissa. All arithmetic is exact arithmetic on
natural numbers followed by one rounding.

## Main definitions

* `BinaryFloat`: a finite number.
* `FloatFormat`: precision and exponents; `FloatFormat.double`, `FloatFormat.single`.
* `FloatFormat.ofQuotient`: the nearest number of the format, if it does not overflow.
* `FloatFormat.ofDecimal`: the nearest number to a decimal, clamped at the exponents that matter.
-/

namespace GraphIngest

/-- A finite number: `mantissa * 2 ^ exponent`, negated if `negative`. -/
structure BinaryFloat where
  negative : Bool
  mantissa : Nat
  exponent : Int
  deriving DecidableEq, Repr, Inhabited

/-- A binary format: how many bits a mantissa has, and the exponents of its least and its
greatest unit. -/
structure FloatFormat where
  precision : Nat
  least : Int
  greatest : Int
  deriving DecidableEq, Repr

namespace BinaryFloat

def isZero (x : BinaryFloat) : Bool := x.mantissa = 0

def neg (x : BinaryFloat) : BinaryFloat := { x with negative := !x.negative }

/-- The magnitude as a quotient of natural numbers. -/
def quotient (x : BinaryFloat) : Nat × Nat :=
  if 0 ≤ x.exponent then (x.mantissa * Nat.pow 2 x.exponent.toNat, 1)
  else (x.mantissa, Nat.pow 2 (-x.exponent).toNat)

end BinaryFloat

/-- The integer nearest to a quotient; a tie goes to the even one. -/
def roundQuotient (num den : Nat) : Nat :=
  let q := num / den
  let r := num % den
  if 2 * r < den then q
  else if den < 2 * r then q + 1
  else if q % 2 = 0 then q else q + 1

namespace FloatFormat

/-- Sixty-four bits. -/
def double : FloatFormat := ⟨53, -1074, 971⟩

/-- Thirty-two bits. -/
def single : FloatFormat := ⟨24, -149, 104⟩

/-- The zero of a sign. -/
def zero (f : FloatFormat) (negative : Bool) : BinaryFloat := ⟨negative, 0, f.least⟩

/-- The exponent of the leading bit of a quotient. -/
def leadingBit (num den : Nat) : Int :=
  let l : Int := (Nat.log2 num : Int) - Nat.log2 den
  let reached := if 0 ≤ l then den * Nat.pow 2 l.toNat ≤ num else den ≤ num * Nat.pow 2 (-l).toNat
  if reached then l else l - 1

/-- The number of the format nearest to `num / den`; nothing if it exceeds the greatest one. -/
def ofQuotient (f : FloatFormat) (negative : Bool) (num den : Nat) : Option BinaryFloat :=
  if num = 0 then some (f.zero negative)
  else
    let e := max f.least (leadingBit num den - (f.precision - 1))
    let m := if 0 ≤ e then roundQuotient num (den * Nat.pow 2 e.toNat)
      else roundQuotient (num * Nat.pow 2 (-e).toNat) den
    let x : BinaryFloat :=
      if m = Nat.pow 2 f.precision then ⟨negative, Nat.pow 2 (f.precision - 1), e + 1⟩
      else ⟨negative, m, e⟩
    if f.greatest < x.exponent then none else some x

/-- The number nearest to a natural number. -/
def ofNat (f : FloatFormat) (n : Nat) : Option BinaryFloat := f.ofQuotient false n 1

/-- The rounded product of two numbers. -/
def mul (f : FloatFormat) (x y : BinaryFloat) : Option BinaryFloat :=
  f.ofQuotient (x.negative != y.negative)
    (x.quotient.1 * y.quotient.1) (x.quotient.2 * y.quotient.2)

/-- The rounded quotient of two numbers, the second of which is not zero. -/
def div (f : FloatFormat) (x y : BinaryFloat) : Option BinaryFloat :=
  f.ofQuotient (x.negative != y.negative)
    (x.quotient.1 * y.quotient.2) (x.quotient.2 * y.quotient.1)

/-- The number nearest to `digits * 10 ^ exponent`. Beyond four hundred places on either side every
format overflows or vanishes, whatever the digits, so larger exponents are not computed. -/
def ofDecimal (f : FloatFormat) (negative : Bool) (digits : Nat) (exponent : Int) :
    Option BinaryFloat :=
  let width := (Nat.toDigits 10 digits).length
  if digits = 0 then some (f.zero negative)
  else if 400 < exponent + width then none
  else if exponent + width < -400 then some (f.zero negative)
  else if 0 ≤ exponent then f.ofQuotient negative (digits * Nat.pow 10 exponent.toNat) 1
  else f.ofQuotient negative digits (Nat.pow 10 (-exponent).toNat)

end FloatFormat

end GraphIngest
