import GraphIngest.Proofs.Json.Reader

/-!
# Numerals of the grammar

JSON has a grammar for numbers. Every number is written as a numeral of it, be it an integer of any
size or a floating-point number of any magnitude, and each numeral is scanned to its end.

## Main definitions

* `JsonGrammar.Number`: the numerals of the grammar.
* `JsonGrammar.number_render`: every number is written as a numeral.
* `JsonGrammar.Number.exists_scan`: a numeral is scanned to its end.
-/

namespace GraphIngest

namespace Numeral

/-- Whether nothing in front of a text can be part of a numeral that ends there. -/
def EndsBefore (rest : List Symbol) : Prop :=
  ∀ c, rest.head? = some (.char c) → c.isDigit = false ∧ c ≠ '.' ∧ c ≠ 'e' ∧ c ≠ 'E'

theorem endsBefore_nil : EndsBefore [] := by simp [EndsBefore]

theorem endsBefore_cons {c : Char} (rest : List Symbol)
    (h : c.isDigit = false ∧ c ≠ '.' ∧ c ≠ 'e' ∧ c ≠ 'E') : EndsBefore (.char c :: rest) := by
  intro c' first
  obtain rfl : c = c' := by simpa using first
  exact h

theorem scanExponent_of_endsBefore {rest : List Symbol} (ends : EndsBefore rest) :
    scanExponent rest = .ok (none, rest) := by
  unfold scanExponent
  split
  · next c rest =>
    obtain ⟨-, -, lower, upper⟩ := ends c rfl
    simp [lower, upper]
  · rfl

theorem toList_render_int (n : Int) : (JsonNumber.int n).render.toList =
    (if n < 0 then ['-'] else []) ++ Nat.toDigits 10 n.natAbs := by
  show (Int.repr n).toList = _
  rw [Int.repr_eq_if]
  by_cases negative : n < 0
  · have size : (-n).toNat = n.natAbs := by omega
    rw [if_neg (by omega), if_pos negative, size, Nat.repr_eq_ofList_toDigits]
    simp
  · have size : n.toNat = n.natAbs := by omega
    rw [if_pos (by omega), if_neg negative, size, Nat.repr_eq_ofList_toDigits]
    simp

end Numeral

namespace JsonGrammar

/-! ## Grammar -/

/-- Decimal digits, at least one. -/
structure Digits (cs : List Char) : Prop where
  filled : cs ≠ []
  numeric : ∀ c ∈ cs, c.isDigit

/-- The whole part of a numeral: digits of which the first is no zero, unless it is the only one. -/
structure Whole (cs : List Char) : Prop extends Digits cs where
  canonical : ∀ rest, cs = '0' :: rest → rest = []

/-- The fraction of a numeral, if there is one. -/
inductive Fraction : List Char → Prop
  | absent : Fraction []
  | point {ds : List Char} (digits : Digits ds) : Fraction ('.' :: ds)

/-- The exponent of a numeral, if there is one. -/
inductive Exponent : List Char → Prop
  | absent : Exponent []
  | mark {letter : Char} {sign ds : List Char} (known : letter = 'e' ∨ letter = 'E')
      (signed : sign ∈ [[], ['+'], ['-']]) (digits : Digits ds) :
      Exponent (letter :: (sign ++ ds))

/-- A numeral without a sign. -/
inductive Magnitude : List Char → Prop
  | parts {whole fraction exponent : List Char} (counts : Whole whole) (divides : Fraction fraction)
      (scales : Exponent exponent) : Magnitude (whole ++ (fraction ++ exponent))

/-- A numeral. -/
inductive Number : List Char → Prop
  | positive {cs : List Char} (magnitude : Magnitude cs) : Number cs
  | negative {cs : List Char} (magnitude : Magnitude cs) : Number ('-' :: cs)

/-! ## What is written for numbers -/

theorem digits_toDigits (n : Nat) : Digits (Nat.toDigits 10 n) :=
  ⟨Nat.toDigits_ne_nil, fun _ => Digit.isDigit_of_mem_toDigits⟩

theorem whole_toDigits (n : Nat) : Whole (Nat.toDigits 10 n) where
  toDigits := digits_toDigits n
  canonical rest digits := by
    cases rest with
    | nil => rfl
    | cons c cs => exact absurd digits Digit.toDigits_ne_zero_cons

theorem magnitude_toDigits (n : Nat) : Magnitude (Nat.toDigits 10 n) := by
  simpa using Magnitude.parts (whole_toDigits n) .absent .absent

theorem isDigit_of_mem_zeros {n : Nat} {c : Char} (among : c ∈ DecimalLayout.zeros n) :
    c.isDigit := by
  obtain rfl := List.eq_of_mem_replicate among
  rfl

/-- Digits of which the first is no zero. -/
structure Leading (cs : List Char) : Prop extends Digits cs where
  positive : cs.head? ≠ some '0'

/-- A number that is not zero has a first digit that is not zero. -/
theorem leading_toDigits {n : Nat} (positive : n ≠ 0) : Leading (Nat.toDigits 10 n) where
  toDigits := digits_toDigits n
  positive first := by
    obtain ⟨rest, written⟩ := List.head?_eq_some_iff.mp first
    obtain rfl := (whole_toDigits n).canonical rest written
    have spelled := Digit.natOf_toDigits n
    rw [written] at spelled
    exact positive spelled.symm

namespace Leading

variable {cs ds : List Char} (leading : Leading cs)
include leading

theorem append (others : ∀ d ∈ ds, d.isDigit) : Leading (cs ++ ds) where
  filled := by simp [leading.filled]
  numeric := by
    intro c among
    exact (List.mem_append.mp among).elim (leading.numeric c) (others c)
  positive := by
    obtain ⟨c, rest, rfl⟩ := List.exists_cons_of_ne_nil leading.filled
    exact leading.positive

theorem take (n : Nat) : Leading (cs.take (n + 1)) where
  filled := by simp [leading.filled]
  numeric c among := leading.numeric c (List.mem_of_mem_take among)
  positive := by
    rw [List.head?_take, if_neg (Nat.succ_ne_zero n)]
    exact leading.positive

theorem whole : Whole cs where
  toDigits := leading.toDigits
  canonical rest same := absurd (by rw [same, List.head?_cons]) leading.positive

theorem magnitude_plainText (lead : Int) : Magnitude (DecimalLayout.plainText cs lead) := by
  unfold DecimalLayout.plainText
  split
  · have part : Digits (DecimalLayout.zeros ((-lead).toNat - 1) ++ cs) := by
      refine ⟨by simp [leading.filled], fun c among => ?_⟩
      exact (List.mem_append.mp among).elim isDigit_of_mem_zeros (leading.numeric c)
    simpa using Magnitude.parts (whole_toDigits 0) (.point part) .absent
  · dsimp only
    split
    · have filled := leading.append fun c => isDigit_of_mem_zeros
        (n := lead.toNat + 1 - cs.length)
      simpa using Magnitude.parts filled.whole (.point (digits_toDigits 0)) .absent
    · next longer =>
      have part : Digits (cs.drop (lead.toNat + 1)) :=
        ⟨by simp; omega, fun c among => leading.numeric c (List.mem_of_mem_drop among)⟩
      simpa using Magnitude.parts (leading.take lead.toNat).whole (.point part) .absent

theorem magnitude_scientificText (lead : Int) :
    Magnitude (DecimalLayout.scientificText cs lead) := by
  have scales : Exponent
      ('e' :: (if lead < 0 then '-' else '+') :: Nat.toDigits 10 lead.natAbs) := by
    have digits := digits_toDigits lead.natAbs
    split
    · exact @Exponent.mark 'e' ['-'] _ (.inl rfl) (by simp) digits
    · exact @Exponent.mark 'e' ['+'] _ (.inl rfl) (by simp) digits
  match cs with
  | [] => exact absurd rfl leading.filled
  | [c] => exact .parts leading.whole .absent scales
  | c :: d :: rest =>
    have part : Digits (d :: rest) :=
      ⟨by simp, fun e among => leading.numeric e (List.mem_cons_of_mem c among)⟩
    exact .parts (leading.take 0).whole (.point part) scales

end Leading

theorem magnitude_chars (l : DecimalLayout) (d : Decimal) : Magnitude (l.chars d) := by
  unfold DecimalLayout.chars
  split
  · exact .parts (whole_toDigits 0) (.point (digits_toDigits 0)) .absent
  · next positive =>
    have leading := leading_toDigits positive
    dsimp only
    split
    · exact leading.magnitude_plainText _
    · exact leading.magnitude_scientificText _

theorem number_layout (l : DecimalLayout) (negative : Bool) (d : Decimal) :
    Number (l.render negative d).toList := by
  rw [DecimalLayout.render, String.toList_ofList]
  split
  · exact .negative (magnitude_chars l d)
  · exact .positive (magnitude_chars l d)

/-- Every number is written as a numeral of the grammar. -/
theorem number_render (n : JsonNumber) : Number n.render.toList := by
  cases n with
  | int n =>
    rw [Numeral.toList_render_int]
    split
    · exact .negative (magnitude_toDigits n.natAbs)
    · exact .positive (magnitude_toDigits n.natAbs)
  | double | single => exact number_layout ..

/-! ## Numerals are scanned -/

open Numeral (digits scanWhole scanFraction scanExponent scan someDigits EndsBefore)

/-- Whether a text does not begin with a digit. -/
def NoDigit (rest : List Symbol) : Prop := ∀ c, rest.head? = some (.char c) → c.isDigit = false

variable {cs : List Char} {rest : List Symbol}

theorem digits_append (numeric : ∀ c ∈ cs, c.isDigit) (ends : NoDigit rest) :
    digits (cs.map .char ++ rest) = (cs, rest) := by
  induction cs with
  | nil =>
    match rest with
    | [] | .broken _ :: _ => rfl
    | .char c :: rest => simp [digits, ends c rfl]
  | cons c cs ih =>
    obtain ⟨first, others⟩ := List.forall_mem_cons.mp numeric
    simp [digits, first, ih others]

theorem Digits.someDigits_append (ds : Digits cs) (ends : NoDigit rest) :
    someDigits (cs.map .char ++ rest) = .ok (cs, rest) := by
  rw [someDigits, digits_append ds.numeric ends]
  split
  · next empty => exact absurd (congrArg Prod.fst empty) ds.filled
  · rfl

theorem Whole.scanWhole_append (whole : Whole cs) (ends : NoDigit rest) :
    scanWhole (cs.map .char ++ rest) = .ok (cs, rest) := by
  rw [scanWhole, digits_append whole.numeric ends]
  split
  · next empty => exact absurd (congrArg Prod.fst empty) whole.filled
  · next zero =>
    cases whole.canonical _ (congrArg Prod.fst zero)
  · rfl

theorem noDigit_of_endsBefore (ends : EndsBefore rest) : NoDigit rest :=
  fun c first => (ends c first).1

theorem noDigit_cons {c : Char} (other : c.isDigit = false) : NoDigit (.char c :: rest) := by
  intro d first
  obtain rfl : c = d := by simpa using first
  exact other

/-- The digits of a fraction are scanned, whatever exponent or end comes after it. -/
theorem Fraction.exists_scan (fraction : Fraction cs) :
    ∃ ds, ∀ rest, NoDigit rest → rest.head? ≠ some (.char '.') →
      scanFraction (cs.map .char ++ rest) = .ok (ds, rest) := by
  cases fraction with
  | absent =>
    refine ⟨[], fun rest _ point => ?_⟩
    rw [List.map_nil, List.nil_append]
    unfold scanFraction
    split
    · exact absurd rfl point
    · rfl
  | point digits => exact ⟨_, fun rest ends _ => digits.someDigits_append ends⟩

/-- Digits have no sign. -/
theorem Digits.minus_append (ds : Digits cs) (rest : List Symbol) :
    Numeral.minus (cs.map .char ++ rest) = (false, cs.map .char ++ rest) := by
  obtain ⟨c, cs, rfl⟩ := List.exists_cons_of_ne_nil ds.filled
  unfold Numeral.minus
  split
  · next same =>
    obtain rfl : c = '-' := by simpa using congrArg List.head? same
    exact absurd (ds.numeric _ List.mem_cons_self) (by decide)
  · rfl

theorem Digits.signed_append (ds : Digits cs) {sign : List Char}
    (signed : sign ∈ [[], ['+'], ['-']]) : ∃ negative, ∀ rest,
      Numeral.signed ((sign ++ cs).map .char ++ rest) = (negative, cs.map .char ++ rest) := by
  simp only [List.mem_cons, List.not_mem_nil, or_false] at signed
  obtain rfl | rfl | rfl := signed
  · refine ⟨false, fun rest => ?_⟩
    rw [List.nil_append, ← ds.minus_append rest]
    unfold Numeral.signed
    split
    · next same =>
      obtain ⟨c, cs, rfl⟩ := List.exists_cons_of_ne_nil ds.filled
      obtain rfl : c = '+' := by simpa using congrArg List.head? same
      exact absurd (ds.numeric _ List.mem_cons_self) (by decide)
    · rfl
  · exact ⟨false, fun rest => rfl⟩
  · exact ⟨true, fun rest => rfl⟩

theorem Exponent.exists_scan (exponent : Exponent cs) :
    ∃ e, ∀ rest, EndsBefore rest → scanExponent (cs.map .char ++ rest) = .ok (e, rest) := by
  cases exponent with
  | absent => exact ⟨none, fun rest ends => Numeral.scanExponent_of_endsBefore ends⟩
  | @mark letter sign ds known signed digits =>
    obtain ⟨negative, read⟩ := digits.signed_append signed
    refine ⟨some (negative, ds), fun rest ends => ?_⟩
    simp only [List.map_cons, List.cons_append, scanExponent, if_pos known, read,
      digits.someDigits_append (noDigit_of_endsBefore ends)]

/-- What comes after a whole part or a fraction is no part of it. -/
theorem Exponent.noDigit (exponent : Exponent cs) (ends : EndsBefore rest) :
    NoDigit (cs.map .char ++ rest) ∧ (cs.map Symbol.char ++ rest).head? ≠ some (.char '.') := by
  cases exponent with
  | absent => exact ⟨noDigit_of_endsBefore ends, fun point => (ends '.' point).2.1 rfl⟩
  | mark known =>
    obtain rfl | rfl := known <;> exact ⟨noDigit_cons (by decide), by simp⟩

theorem Fraction.noDigit (fraction : Fraction cs) (ends : NoDigit rest) :
    NoDigit (cs.map .char ++ rest) := by
  cases fraction with
  | absent => exact ends
  | point => exact noDigit_cons (by decide)

theorem Magnitude.exists_scan (magnitude : Magnitude cs) (negative : Bool) :
    ∃ n, ∀ s rest, EndsBefore rest → Numeral.minus s = (negative, cs.map .char ++ rest) →
      scan s = .ok (n, rest) := by
  obtain @⟨whole, fraction, exponent, counts, divides, scales⟩ := magnitude
  obtain ⟨part, fractionRead⟩ := divides.exists_scan
  obtain ⟨scale, exponentRead⟩ := scales.exists_scan
  refine ⟨⟨negative, whole, part, scale⟩, fun s rest ends sign => ?_⟩
  obtain ⟨noDigit, noPoint⟩ := scales.noDigit ends
  simp only [List.map_append, List.append_assoc] at sign
  simp only [scan, sign, counts.scanWhole_append (divides.noDigit noDigit),
    fractionRead _ noDigit noPoint, exponentRead rest ends]

/-- A numeral is scanned to its end. -/
theorem Number.exists_scan (number : Number cs) :
    ∃ n, ∀ rest, EndsBefore rest → scan (cs.map .char ++ rest) = .ok (n, rest) := by
  cases number with
  | positive magnitude =>
    obtain ⟨n, read⟩ := magnitude.exists_scan false
    refine ⟨n, fun rest ends => read _ rest ends ?_⟩
    obtain ⟨counts⟩ := magnitude
    simpa using counts.minus_append _
  | negative magnitude =>
    obtain ⟨n, read⟩ := magnitude.exists_scan true
    exact ⟨n, fun rest ends => read _ rest ends rfl⟩

/-- A numeral is told from other tokens by its first character. -/
theorem Number.exists_cons (number : Number cs) :
    ∃ c ds, cs = c :: ds ∧ (c = '-' ∨ c.isDigit) := by
  cases number with
  | positive magnitude =>
    obtain @⟨whole, _, _, counts⟩ := magnitude
    obtain ⟨c, ds, rfl⟩ := List.exists_cons_of_ne_nil counts.filled
    exact ⟨c, _, rfl, .inr (counts.numeric c List.mem_cons_self)⟩
  | negative => exact ⟨'-', _, rfl, .inl rfl⟩

end JsonGrammar

end GraphIngest
