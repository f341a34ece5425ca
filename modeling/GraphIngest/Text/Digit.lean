/-!
# Digits

## Main definitions

* `Digit.value?`: the value of a digit of a base up to sixteen.
* `Digit.natOf?`: the number that digits of a base spell.
* `Digit.natOf`: the number that decimal digits spell.

## Main statements

* `Digit.natOf_toDigits`: the digits of a number spell it.
* `Digit.toDigits_ne_zero_cons`: only zero is written with a zero in front.
-/

namespace GraphIngest

namespace Digit

/-- The value of a digit. -/
def value? (c : Char) : Option Nat :=
  if '0' ≤ c ∧ c ≤ '9' then some (c.toNat - '0'.toNat)
  else if 'a' ≤ c ∧ c ≤ 'f' then some (c.toNat - 'a'.toNat + 10)
  else if 'A' ≤ c ∧ c ≤ 'F' then some (c.toNat - 'A'.toNat + 10)
  else none

/-- The number that digits of a base spell; no digits at all spell zero. -/
def natOf? (base : Nat) (digits : List Char) : Option Nat :=
  digits.foldlM (fun n c =>
    match value? c with
    | some d => if d < base then some (base * n + d) else none
    | none => none) 0

/-- The number that decimal digits spell. -/
def natOf (digits : List Char) : Nat :=
  digits.foldl (fun n c => 10 * n + (c.toNat - '0'.toNat)) 0

/-- The digits of a number spell it. -/
theorem natOf_toDigits (n : Nat) : natOf (Nat.toDigits 10 n) = n := Nat.ofDigitChars_ten_toDigits

theorem isDigit_of_mem_toDigits {n : Nat} {c : Char} (among : c ∈ Nat.toDigits 10 n) : c.isDigit :=
  Nat.isDigit_of_mem_toDigits (by omega) (by omega) among

/-- Only zero is written with a zero in front. -/
theorem toDigits_ne_zero_cons {n : Nat} {c : Char} {cs : List Char} :
    Nat.toDigits 10 n ≠ '0' :: c :: cs := by
  induction n using Nat.strongRecOn generalizing c cs with
  | ind n ih =>
    intro h
    by_cases small : n < 10
    · simp [Nat.toDigits_of_lt_base small] at h
    · rw [Nat.toDigits_of_base_le (by omega) (by omega)] at h
      match left : Nat.toDigits 10 (n / 10) with
      | [] => exact Nat.toDigits_ne_nil left
      | [d] =>
        obtain rfl : d = '0' := by rw [left] at h; simpa using congrArg List.head? h
        have := Nat.ofDigitChars_toDigits (b := 10) (n := n / 10) (by omega) (by omega)
        rw [left] at this
        simp [Nat.ofDigitChars] at this
        omega
      | d :: e :: ds =>
        obtain rfl : d = '0' := by rw [left] at h; simpa using congrArg List.head? h
        exact ih (n / 10) (by omega) left

end Digit

end GraphIngest
