import GraphIngest.Text.Digit
import GraphIngest.Text.Symbol
import GraphIngest.Json.Error
import GraphIngest.Json.Value

/-!
# Numerals

A numeral is scanned into its parts. Its value is an exact integer if it has no fraction and no
exponent and fits sixty-four bits. Otherwise it is a double: the digits that fit sixty-four bits
are multiplied or divided by a power of ten, both of which are doubles already.

## Main definitions

* `Numeral`: the parts of a numeral.
* `Numeral.scan`: scan a numeral, or say why there is none.
* `Numeral.value`: its value, if it is in range.
-/

namespace GraphIngest

/-- The parts of a numeral. Without a point the fraction is empty; `exponent` is the sign and the
digits after an exponent mark. -/
structure Numeral where
  negative : Bool
  whole : List Char
  fraction : List Char
  exponent : Option (Bool × List Char)
  deriving DecidableEq, Repr, Inhabited

namespace Numeral

/-! ## Scanning -/

/-- The digits that a text begins with, and what follows them. -/
def digits : List Symbol → List Char × List Symbol
  | .char c :: rest =>
    if c.isDigit then let r := digits rest; (c :: r.1, r.2) else ([], .char c :: rest)
  | rest => ([], rest)

/-- There is no numeral: digits are missing, or a zero is followed by a digit. The input may have
ended there. -/
structure NoDigits where
  atEnd : Bool

def noDigits (rest : List Symbol) : NoDigits := ⟨rest.isEmpty⟩

/-- Digits, at least one. -/
def someDigits (s : List Symbol) : Except NoDigits (List Char × List Symbol) :=
  match digits s with
  | ([], rest) => .error (noDigits rest)
  | r => .ok r

/-- The whole part: a zero stands alone. -/
def scanWhole (s : List Symbol) : Except NoDigits (List Char × List Symbol) :=
  match digits s with
  | ([], rest) => .error (noDigits rest)
  | ('0' :: _ :: _, _) => .error ⟨false⟩
  | r => .ok r

/-- The fraction after a point, if there is one. -/
def scanFraction : List Symbol → Except NoDigits (List Char × List Symbol)
  | .char '.' :: rest => someDigits rest
  | rest => .ok ([], rest)

/-- Whether a text begins with a minus sign, and what follows the sign. -/
def minus : List Symbol → Bool × List Symbol
  | .char '-' :: rest => (true, rest)
  | rest => (false, rest)

/-- Whether a text begins with a minus sign, and what follows a sign of either kind. -/
def signed : List Symbol → Bool × List Symbol
  | .char '+' :: rest => (false, rest)
  | rest => minus rest

/-- The exponent after its mark, if there is one. -/
def scanExponent : List Symbol → Except NoDigits (Option (Bool × List Char) × List Symbol)
  | .char c :: rest =>
    if c = 'e' ∨ c = 'E' then
      match someDigits (signed rest).2 with
      | .error e => .error e
      | .ok r => .ok (some ((signed rest).1, r.1), r.2)
    else .ok (none, .char c :: rest)
  | rest => .ok (none, rest)

/-- Scan a numeral that may begin with a minus sign. -/
def scan (s : List Symbol) : Except NoDigits (Numeral × List Symbol) :=
  match scanWhole (minus s).2 with
  | .error e => .error e
  | .ok w =>
    match scanFraction w.2 with
    | .error e => .error e
    | .ok f =>
      match scanExponent f.2 with
      | .error e => .error e
      | .ok e => .ok (⟨(minus s).1, w.1, f.1, e.1⟩, e.2)

/-! ## Scanning gets on -/

theorem length_digits (s : List Symbol) :
    (digits s).1.length + (digits s).2.length = s.length := by
  fun_induction digits s <;> grind

theorem length_someDigits_lt {s : List Symbol} {r : List Char × List Symbol}
    (h : someDigits s = .ok r) : r.2.length < s.length := by
  have hl := length_digits s
  unfold someDigits at h
  split at h
  · simp at h
  · next hne =>
    have : (digits s).1 ≠ [] := fun he => hne _ (by rw [← he])
    have := List.length_pos_iff.2 this
    grind

theorem length_scanWhole_lt {s : List Symbol} {r : List Char × List Symbol}
    (h : scanWhole s = .ok r) : r.2.length < s.length := by
  have hl := length_digits s
  unfold scanWhole at h
  split at h
  · simp at h
  · simp at h
  · next hne _ =>
    have : (digits s).1 ≠ [] := fun he => hne _ (by rw [← he])
    have := List.length_pos_iff.2 this
    grind

theorem length_scanFraction_le {s : List Symbol} {r : List Char × List Symbol}
    (h : scanFraction s = .ok r) : r.2.length ≤ s.length := by
  unfold scanFraction at h
  split at h
  · have := length_someDigits_lt h
    simp; omega
  · grind

theorem length_minus_le (s : List Symbol) : (minus s).2.length ≤ s.length := by
  unfold minus
  split <;> simp

theorem length_signed_le (s : List Symbol) : (signed s).2.length ≤ s.length := by
  unfold signed
  split
  · simp
  · exact length_minus_le _

theorem length_scanExponent_le {s : List Symbol} {r : Option (Bool × List Char) × List Symbol}
    (h : scanExponent s = .ok r) : r.2.length ≤ s.length := by
  unfold scanExponent at h
  split at h
  · next c rest =>
    have hs := length_signed_le rest
    split at h
    · split at h
      · simp at h
      · next hd =>
        have := length_someDigits_lt hd
        simp at h ⊢
        grind
    · grind
  · grind

theorem length_scan_lt {s : List Symbol} {r : Numeral × List Symbol} (h : scan s = .ok r) :
    r.2.length < s.length := by
  have hm := length_minus_le s
  unfold scan at h
  split at h
  · simp at h
  · next hw =>
    have := length_scanWhole_lt hw
    split at h
    · simp at h
    · next hf =>
      have := length_scanFraction_le hf
      split at h
      · simp at h
      · next he =>
        have := length_scanExponent_le he
        grind

/-! ## Value -/

/-- The greatest integer of sixty-four bits. -/
def greatestUnsigned : Nat := 18446744073709551615

/-- The digits that fit sixty-four bits: the number they spell, and the digits after them. -/
def take64 (n : Nat) : List Char → Nat × List Char
  | [] => (n, [])
  | c :: rest =>
    let m := 10 * n + (c.toNat - '0'.toNat)
    if m ≤ greatestUnsigned then take64 m rest else (n, c :: rest)

/-- The significand, and the power of ten it is to be multiplied with before the exponent. Digits
that do not fit are left out; those of the whole part still count for the size. -/
def significand (whole fraction : List Char) : Nat × Int :=
  let w := take64 0 whole
  let f := take64 w.1 fraction
  (f.1, (w.2.length : Int) - ((fraction.length : Int) - f.2.length))

/-- A power of ten as a double. -/
def power (n : Nat) : BinaryFloat := (FloatFormat.double.ofNat (Nat.pow 10 n)).getD default

/-- Multiply a double by a power of ten. Powers beyond `10 ^ 308` are no doubles: such a number is
out of range, or it is divided step by step. Nothing if the result is out of range. -/
def scale (x : BinaryFloat) (exponent : Int) : Option BinaryFloat :=
  if h : exponent < -308 then
    if x.isZero then some x
    else (FloatFormat.double.div x (power 308)).bind (scale · (exponent + 308))
  else if 308 < exponent then if x.isZero then some x else none
  else if 0 ≤ exponent then FloatFormat.double.mul x (power exponent.toNat)
  else FloatFormat.double.div x (power (-exponent).toNat)
termination_by (-exponent).toNat
decreasing_by omega

/-- The greatest exponent that is computed with, in either direction. -/
def greatestExponent : Nat := 2147483647

/-- Exponents are computed in thirty-two bits and stay at the ends of their range. -/
def saturate (n : Int) : Int := max (-2147483648) (min 2147483647 n)

/-- The double that a numeral denotes. -/
def double? (n : Numeral) : Option BinaryFloat := do
  let (digits, shift) := significand n.whole n.fraction
  let (negativeExponent, exponent) := match n.exponent with
    | none => (false, 0)
    | some (s, ds) => (s, Digit.natOf ds)
  let x ←
    if greatestExponent < exponent then
      if digits = 0 ∨ negativeExponent then some (FloatFormat.double.zero false) else none
    else do
      let x ← FloatFormat.double.ofNat digits
      scale x (saturate (if negativeExponent then shift - exponent else shift + exponent))
  return { x with negative := n.negative }

/-- The value of a numeral, if it is in range. -/
def value (n : Numeral) : Except Malformed JsonNumber :=
  let m := Digit.natOf n.whole
  if n.fraction = [] ∧ n.exponent = none ∧ ¬ (n.negative ∧ m = 0) ∧
      m ≤ (if n.negative then 9223372036854775808 else greatestUnsigned) then
    .ok (.int (if n.negative then -m else m))
  else
    match n.double? with
    | some x => .ok (.double x)
    | none => .error .numberOutOfRange

end Numeral

end GraphIngest
