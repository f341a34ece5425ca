/-!
# Punycode

A label of a domain that is not ASCII is written in ASCII: its ASCII characters, and then numbers
that say where which of the others are inserted.

## Main definitions

* `Punycode.encode`: the ASCII form of a label.
* `Punycode.decode?`: the label that an ASCII form stands for.
-/

namespace GraphIngest

namespace Punycode

/-- The digit of a number below thirty-six. -/
def digit (n : Nat) : Char :=
  if n < 26 then Char.ofNat ('a'.toNat + n) else Char.ofNat ('0'.toNat + (n - 26))

def digit? (c : Char) : Option Nat :=
  if 'a' ≤ c ∧ c ≤ 'z' then some (c.toNat - 'a'.toNat)
  else if 'A' ≤ c ∧ c ≤ 'Z' then some (c.toNat - 'A'.toNat)
  else if '0' ≤ c ∧ c ≤ '9' then some (c.toNat - '0'.toNat + 26)
  else none

/-- The weight from which on a digit at a place ends a number. -/
def threshold (place bias : Nat) : Nat := max 1 (min 26 (place - bias))

/-- How often a number is to be divided until it is small, and what is left of it. -/
def settle (delta : Nat) : Nat × Nat :=
  if 455 < delta then
    let r := settle (delta / 35)
    (r.1 + 36, r.2)
  else (0, delta)
termination_by delta

/-- The bias after a number was written. -/
def adapt (delta count : Nat) (first : Bool) : Nat :=
  let delta := if first then delta / 700 else delta / 2
  let r := settle (delta + delta / count)
  r.1 + 36 * r.2 / (r.2 + 38)

/-- A number from a place on. -/
def number (bias place n : Nat) : List Char :=
  let t := threshold place bias
  if h : n < t then [digit n]
  else digit (t + (n - t) % (36 - t)) :: number bias (place + 36) ((n - t) / (36 - t))
termination_by n
decreasing_by
  have : 1 ≤ threshold place bias := Nat.le_max_left ..
  have := Nat.div_le_self (n - threshold place bias) (36 - threshold place bias)
  omega

/-- Where the encoding of a label stands. -/
structure EncodeState where
  delta : Nat
  bias : Nat
  written : Nat
  text : List Char

/-- Write down where a code point is inserted. -/
def insertion (s : EncodeState) (first : Bool) : EncodeState where
  delta := 0
  bias := adapt s.delta (s.written + 1) first
  written := s.written + 1
  text := s.text ++ number s.bias 36 s.delta

/-- Write down all places of one code point. -/
def insertAll (label : List Nat) (basic code : Nat) (s : EncodeState) : EncodeState :=
  let s := label.foldl (fun s c =>
    if c < code then { s with delta := s.delta + 1 }
    else if c = code then insertion s (s.written = basic)
    else s) s
  { s with delta := s.delta + 1 }

/-- The ASCII form of a label. -/
def encode (label : List Char) : List Char :=
  let codes := label.map Char.toNat
  let basic := label.filter (·.toNat < 128)
  let others := ((codes.filter (128 ≤ ·)).mergeSort (· ≤ ·)).eraseDups
  let start : EncodeState := {
    delta := 0
    bias := 72
    written := basic.length
    text := if basic.isEmpty then [] else basic ++ ['-'] }
  let r := others.foldl (fun (s, next) code =>
    let s : EncodeState := { s with delta := s.delta + (code - next) * (s.written + 1) }
    (insertAll codes basic.length code s, code + 1)) (start, 128)
  r.1.text

/-- Where the decoding of a label stands. -/
structure DecodeState where
  label : List Char
  code : Nat
  place : Nat
  bias : Nat
  /-- The number that is being read, its weight and its next place. -/
  sum : Nat
  weight : Nat
  digits : Nat

/-- Insert a code point when its number is complete. -/
def insertCode? (s : DecodeState) (sum : Nat) : Option DecodeState :=
  let place := s.place + sum
  let count := s.label.length + 1
  let code := s.code + place / count
  if code.isValidChar then
    let at_ := place % count
    some {
      label := s.label.take at_ ++ Char.ofNat code :: s.label.drop at_
      code := code
      place := at_ + 1
      bias := adapt sum count (s.place = 0 ∧ s.code = 128)
      sum := 0
      weight := 1
      digits := 36 }
  else none

/-- A bound of all numbers. -/
def bound : Nat := 4294967296

/-- Read one digit. -/
def decodeDigit? (s : DecodeState) (c : Char) : Option DecodeState := do
  let n ← digit? c
  let sum := s.sum + n * s.weight
  let t := threshold s.digits s.bias
  let weight := s.weight * (36 - t)
  if bound ≤ sum then none
  if n < t then insertCode? s sum
  else if bound ≤ weight then none
  else some { s with sum, weight, digits := s.digits + 36 }

/-- The ASCII characters before the last hyphen, and what follows it. -/
def splitBasic (cs : List Char) : List Char × List Char :=
  let reversed := cs.reverse
  let numbers := (reversed.takeWhile (· ≠ '-')).reverse
  ((reversed.dropWhile (· ≠ '-')).drop 1 |>.reverse, numbers)

/-- The label that an ASCII form stands for. -/
def decode? (cs : List Char) : Option (List Char) := do
  let (basic, numbers) := splitBasic cs
  let start : DecodeState := ⟨basic, 128, 0, 72, 0, 1, 36⟩
  let s ← numbers.foldlM decodeDigit? start
  if s.digits = 36 then some s.label else none

end Punycode

end GraphIngest
