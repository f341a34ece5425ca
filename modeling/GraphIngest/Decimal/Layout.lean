import GraphIngest.Decimal.Shortest

/-!
# How a decimal is laid out

A layout says for which magnitudes a decimal is written with a plain point. All others are written
with one digit before the point and a signed exponent.

## Main definitions

* `DecimalLayout`: the magnitudes that are written plainly.
* `DecimalLayout.render`: the text of a signed decimal; it always shows a fraction or an exponent.
-/

namespace GraphIngest

/-- The exponents of leading digits that are written plainly; no bound means all. -/
structure DecimalLayout where
  least : Option Int
  greatest : Option Int
  deriving Repr

namespace DecimalLayout

/-- Every magnitude is written plainly. -/
def plain : DecimalLayout := ⟨none, none⟩

/-- Magnitudes from `10 ^ least` up to but not including `10 ^ (greatest + 1)` are plain. -/
def between (least greatest : Int) : DecimalLayout := ⟨some least, some greatest⟩

def isPlain (l : DecimalLayout) (lead : Int) : Bool :=
  l.least.all (· ≤ lead) && l.greatest.all (lead ≤ ·)

/-- So many zeros. -/
def zeros (n : Nat) : List Char := List.replicate n '0'

/-- Digits with a plain point, the first of them at `10 ^ lead`. -/
def plainText (digits : List Char) (lead : Int) : List Char :=
  if lead < 0 then '0' :: '.' :: (zeros ((-lead).toNat - 1) ++ digits)
  else
    let whole := lead.toNat + 1
    if digits.length ≤ whole then digits ++ zeros (whole - digits.length) ++ ['.', '0']
    else digits.take whole ++ '.' :: digits.drop whole

/-- Digits with one of them before the point, and an exponent with its sign. -/
def scientificText (digits : List Char) (lead : Int) : List Char :=
  let mantissa := match digits with
    | [] => []
    | [d] => [d]
    | d :: rest => d :: '.' :: rest
  let sign := if lead < 0 then '-' else '+'
  mantissa ++ 'e' :: sign :: Nat.toDigits 10 lead.natAbs

/-- The text of a decimal. -/
def chars (l : DecimalLayout) (d : Decimal) : List Char :=
  if d.digits = 0 then ['0', '.', '0']
  else
    let digits := Nat.toDigits 10 d.digits
    let lead := d.exponent + digits.length - 1
    if l.isPlain lead then plainText digits lead else scientificText digits lead

/-- The text of a signed decimal. -/
def render (l : DecimalLayout) (negative : Bool) (d : Decimal) : String :=
  String.ofList (if negative then '-' :: l.chars d else l.chars d)

end DecimalLayout

end GraphIngest
