import GraphIngest.Decimal.Binary
import GraphIngest.Text.Digit

/-!
# Reading floating-point numbers

## Main definitions

* `FloatValue`: a finite number, an infinity, or no number.
* `FloatFormat.read?`: the number of a format that a text denotes.
-/

namespace GraphIngest

/-- What a floating-point text may denote. -/
inductive FloatValue where
  | finite (value : BinaryFloat)
  | infinite (negative : Bool)
  | notANumber
  deriving DecidableEq, Repr, Inhabited

/-- A decimal text: sign, all digits, and the power of ten that the last digit counts. -/
structure DecimalText where
  negative : Bool
  digits : Nat
  exponent : Int
  deriving DecidableEq, Repr, Inhabited

namespace DecimalText

/-- The digits that a text begins with, and what follows them. -/
def digitRun (cs : List Char) : List Char × List Char :=
  (cs.takeWhile Char.isDigit, cs.dropWhile Char.isDigit)

/-- Whether a text begins with a minus sign, and what follows a sign of either kind. -/
def sign : List Char → Bool × List Char
  | '-' :: rest => (true, rest)
  | '+' :: rest => (false, rest)
  | rest => (false, rest)

/-- The digits after a point, and what follows them. -/
def fraction : List Char → List Char × List Char
  | '.' :: rest => digitRun rest
  | rest => ([], rest)

/-- An exponent that ends the text. -/
def exponent? : List Char → Option Int
  | [] => some 0
  | c :: rest =>
    let (negative, rest) := sign rest
    let (digits, rest) := digitRun rest
    if (c = 'e' ∨ c = 'E') ∧ digits ≠ [] ∧ rest = [] then
      some (if negative then -(Digit.natOf digits : Int) else Digit.natOf digits)
    else none

/-- A decimal with at least one digit, perhaps with a point, perhaps with an exponent. -/
def read? (cs : List Char) : Option DecimalText := do
  let (negative, cs) := sign cs
  let (whole, cs) := digitRun cs
  let (part, cs) := fraction cs
  let exponent ← exponent? cs
  if whole = [] ∧ part = [] then none
  else some ⟨negative, Digit.natOf (whole ++ part), exponent - part.length⟩

end DecimalText

/-- The number that a text denotes. What is too great for the format is infinite. -/
def FloatFormat.read? (f : FloatFormat) (cs : List Char) : Option FloatValue :=
  let (negative, rest) := DecimalText.sign cs
  if rest = ['i', 'n', 'f'] then some (.infinite negative)
  else if rest = ['n', 'a', 'n'] then some .notANumber
  else
    (DecimalText.read? cs).map fun d =>
      match f.ofDecimal d.negative d.digits d.exponent with
      | some x => .finite x
      | none => .infinite d.negative

end GraphIngest
