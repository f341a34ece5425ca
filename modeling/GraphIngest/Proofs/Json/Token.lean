import GraphIngest.Proofs.Json.Numeral

/-!
# Tokens of written texts

Texts and numbers are scanned from what is written for them, whatever comes after it. Integers of
sixty-four bits are read back from that, and so is zero with a minus sign, which is a double.

## Main definitions

* `Quoted.ofText`, `Numeral.ofInt`: texts and integers as they are written.
* `JsonToken.tokens_quoted`, `JsonToken.tokens_number`: texts and numbers are one token each.
* `JsonNumber.ReadsBack`: whether a number is read back from its text.
-/

namespace GraphIngest

/-! ## Texts -/

/-- The piece that a character is written as. -/
def QuotedPiece.ofChar (c : Char) : QuotedPiece :=
  if c.toNat < 32 ∧ c.toNat ∉ [8, 9, 10, 12, 13] then .unit c.toNat else .char c

namespace Quoted

/-- A text as it is written. -/
def ofText (s : String) : Quoted := ⟨s.toList.map .ofChar, .closed⟩

theorem unit?_digitChar : ∀ n < 32, unit? (.char '0') (.char '0')
    (.char (Nat.digitChar (n / 16))) (.char (Nat.digitChar (n % 16))) = some n := by
  decide

theorem scan_escape (c : Char) (rest : List Symbol) :
    scan ((Json.escape c).map .char ++ rest) = ((scan rest).1.cons (.ofChar c), (scan rest).2) := by
  by_cases short : c ∈ ['"', '\\', '\n', '\r', '\t', Char.ofNat 8, Char.ofNat 12]
  · simp only [List.mem_cons, List.not_mem_nil, or_false] at short
    obtain rfl | rfl | rfl | rfl | rfl | rfl | rfl := short <;>
      simp [Json.escape, scan, shortEscape?, QuotedPiece.ofChar]
  simp only [List.mem_cons, List.not_mem_nil, or_false, not_or] at short
  obtain ⟨quote, backslash, newline, ret, tab, back, feed⟩ := short
  have other (n : Nat) (h : c ≠ Char.ofNat n) : c.toNat ≠ n := fun same => h (by
    rw [← same, Char.ofNat_toNat])
  simp only [Json.escape, quote, backslash, newline, ret, tab, other 8 back, other 12 feed,
    if_false]
  split
  · next control =>
    have long : QuotedPiece.ofChar c = .unit c.toNat := by
      refine if_pos ⟨control, ?_⟩
      simp only [List.mem_cons, List.not_mem_nil, or_false, not_or]
      exact ⟨other 8 back, other 9 tab, other 10 newline, other 12 feed, other 13 ret⟩
    simp [scan, unit?_digitChar _ control, long]
  · next control =>
    have itself : QuotedPiece.ofChar c = .char c := if_neg fun h => control h.1
    simp [scan, backslash, quote, control, itself]

theorem scan_escaped (cs : List Char) (rest : List Symbol) :
    scan ((cs.flatMap Json.escape).map .char ++ .char '"' :: rest) =
      (⟨cs.map .ofChar, .closed⟩, rest) := by
  induction cs with
  | nil => simp [scan]
  | cons c cs ih =>
    rw [List.flatMap_cons, List.map_append, List.append_assoc, scan_escape, ih]
    rfl

theorem decode_ofChar (cs : List Char) :
    decode .closed (cs.map .ofChar) = .ok (cs.map some) := by
  induction cs with
  | nil => rfl
  | cons c cs ih =>
    rw [List.map_cons, QuotedPiece.ofChar]
    split
    · next h =>
      have := h.1
      have trailing : isTrailing c.toNat = false := by simp [isTrailing]; omega
      have leading : isLeading c.toNat = false := by simp [isLeading]; omega
      rw [decode.eq_def]
      simp [trailing, leading, ih, Functor.map, Except.map]
    · simp [decode, ih, Functor.map, Except.map]

theorem read_of_decode {q : Quoted} {cs : List Char}
    (decoded : decode q.ending q.pieces = .ok (cs.map some)) : q.read = .ok (String.ofList cs) := by
  have chars : (cs.map some).mapM id = some cs := by
    clear decoded
    induction cs with
    | nil => rfl
    | cons c cs ih => simp [ih]
  rw [read, decoded]
  simp only [bind, Except.bind, chars]
  rfl

@[simp] theorem read_ofText (s : String) : (ofText s).read = .ok s := by
  rw [read_of_decode (decode_ofChar s.toList), String.ofList_toList]

end Quoted

/-! ## Numbers -/

/-- Zero with a minus sign, which is a double. -/
def JsonNumber.minusZero : JsonNumber := .double (FloatFormat.double.zero true)

namespace Numeral

/-- An integer as it is written. -/
def ofInt (n : Int) : Numeral := ⟨n < 0, Nat.toDigits 10 n.natAbs, [], none⟩

theorem scan_int (n : Int) : scan (Symbol.ofString (JsonNumber.int n).render) =
    .ok (ofInt n, []) := by
  have sign : minus (Symbol.ofString (JsonNumber.int n).render) =
      (decide (n < 0), (Nat.toDigits 10 n.natAbs).map .char ++ []) := by
    rw [Symbol.ofString, toList_render_int]
    split
    · next negative => simp [minus, negative]
    · next positive =>
      simpa [positive] using (JsonGrammar.digits_toDigits n.natAbs).minus_append []
  have whole := (JsonGrammar.whole_toDigits n.natAbs).scanWhole_append
    (JsonGrammar.noDigit_of_endsBefore endsBefore_nil)
  rw [scan, sign, whole]
  rfl

theorem value_ofInt {n : Int} (least : -9223372036854775808 ≤ n) (greatest : n ≤ greatestUnsigned) :
    (ofInt n).value = .ok (.int n) := by
  have spelled := Digit.natOf_toDigits n.natAbs
  unfold greatestUnsigned at greatest
  by_cases negative : n < 0
  · have size : -(n.natAbs : Int) = n := by omega
    simp only [value, ofInt, spelled, negative, decide_true, if_true, size]
    exact if_pos ⟨trivial, trivial, by omega, by omega⟩
  · have size : (n.natAbs : Int) = n := by omega
    simp only [value, ofInt, spelled, negative, decide_false, Bool.false_eq_true, if_false, size]
    exact if_pos ⟨trivial, trivial, by simp, by unfold greatestUnsigned; omega⟩

/-- Zero with a minus sign. -/
def minusZero : Numeral := ⟨true, ['0'], [], none⟩

/-- Zero stays zero with any exponent. -/
theorem exists_scale_zero (negative : Bool) (exponent : Int) : ∃ negative',
    scale (FloatFormat.double.zero negative) exponent =
      some (FloatFormat.double.zero negative') := by
  have no_magnitude : (FloatFormat.double.zero negative).quotient.1 = 0 := by
    cases negative <;> decide
  rw [scale]
  split
  · exact ⟨negative, rfl⟩
  split
  · exact ⟨negative, rfl⟩
  split
  · rw [FloatFormat.mul, FloatFormat.ofQuotient, no_magnitude, Nat.zero_mul, if_pos rfl]
    exact ⟨_, rfl⟩
  · rw [FloatFormat.div, FloatFormat.ofQuotient, no_magnitude, Nat.zero_mul, if_pos rfl]
    exact ⟨_, rfl⟩

theorem double?_of_zero {n : Numeral} (digits : (significand n.whole n.fraction).1 = 0)
    (exponent : n.exponent = none) : n.double? = some (FloatFormat.double.zero n.negative) := by
  obtain ⟨negative', scaled⟩ :=
    exists_scale_zero false (saturate ((significand n.whole n.fraction).2 + (0 : Nat)))
  have zero : FloatFormat.double.ofNat 0 = some (FloatFormat.double.zero false) := rfl
  have small : ¬ greatestExponent < 0 := by decide
  rw [double?]
  simp only [digits, exponent, small, if_false, Bool.false_eq_true, zero, Option.bind_eq_bind,
    Option.bind_some, scaled]
  rfl

/-- The sign of zero is kept, so its value is a double. -/
theorem value_minusZero : minusZero.value = .ok .minusZero := by
  have zero : minusZero.double? = some (FloatFormat.double.zero true) :=
    double?_of_zero (by decide) rfl
  rw [value, zero]
  rfl

/-- The numeral that a text is. -/
def ofText (s : String) : Numeral :=
  match scan (Symbol.ofString s) with
  | .ok r => r.1
  | .error _ => default

theorem ofText_int (n : Int) : ofText (JsonNumber.int n).render = ofInt n := by
  rw [ofText, scan_int]

theorem ofText_minusZero : ofText JsonNumber.minusZero.render = ⟨true, ['0'], ['0'], none⟩ := by
  decide

end Numeral

/-! ## Tokens -/

namespace JsonToken

theorem tokens_of_next? {s rest : List Symbol} {t : JsonToken} (h : next? s = some (t, rest)) :
    tokens s = t :: tokens rest := by
  rw [tokens]
  split
  · next last => simp [last] at h
  · next r first =>
    obtain rfl : r = (t, rest) := by simpa [first] using h
    rfl

theorem tokens_char {c : Char} {rest : List Symbol} (visible : isBlank (.char c) = false) :
    tokens (.char c :: rest) = (startingWith c rest).1 :: tokens (startingWith c rest).2 :=
  tokens_of_next? (by simp [next?, visible])

theorem tokens_of_next?_eq_none {s : List Symbol} (h : next? s = none) : tokens s = [] := by
  rw [tokens]
  split
  · rfl
  · next r first => simp [first] at h

theorem tokens_nil : tokens [] = [] := tokens_of_next?_eq_none rfl

theorem tokens_punctuation {c : Char} {t : JsonToken} (rest : List Symbol)
    (h : punctuation? c = some t) : tokens (.char c :: rest) = t :: tokens rest := by
  have visible : isBlank (.char c) = false := by
    simp only [isBlank, Bool.or_eq_false_iff, decide_eq_false_iff_not]
    refine ⟨⟨⟨?_, ?_⟩, ?_⟩, ?_⟩ <;> (rintro rfl; simp [punctuation?] at h)
  rw [tokens_char visible, startingWith, h]

theorem tokens_null (rest : List Symbol) :
    tokens ((Json.chars .null).map .char ++ rest) = .null :: tokens rest := by
  simp only [Json.chars, List.map_cons, List.map_nil, List.cons_append, List.nil_append]
  rw [tokens_char (by decide)]
  simp [startingWith, punctuation?, value, word]

theorem tokens_bool (b : Bool) (rest : List Symbol) :
    tokens ((Json.chars (.bool b)).map .char ++ rest) = .bool b :: tokens rest := by
  cases b <;>
    simp only [Json.chars, List.map_cons, List.map_nil, List.cons_append, List.nil_append] <;>
    rw [tokens_char (by decide)] <;>
    simp [startingWith, punctuation?, value, word]

theorem tokens_quoted (s : String) (rest : List Symbol) :
    tokens ((Json.quotedChars s).map .char ++ rest) = .text (.ofText s) :: tokens rest := by
  have scanned := Quoted.scan_escaped s.toList rest
  simp only [Json.quotedChars, List.map_cons, List.map_append, List.map_nil, List.cons_append,
    List.nil_append, List.append_assoc]
  rw [tokens_char (by decide)]
  simp [startingWith, punctuation?, value, scanned, Quoted.ofText]

theorem tokens_numeral {c : Char} {rest after : List Symbol} {n : Numeral}
    (begins : c = '-' ∨ c.isDigit) (h : Numeral.scan (.char c :: rest) = .ok (n, after)) :
    tokens (.char c :: rest) = .number n :: tokens after := by
  have other (d : Char) (neither : d ≠ '-' ∧ d.isDigit = false) : c ≠ d := by
    rintro rfl
    rcases begins with rfl | digit
    · exact neither.1 rfl
    · simp [neither.2] at digit
  have visible : isBlank (.char c) = false := by simp [isBlank, other]
  have sign : c = '-' ∨ c.isDigit = true := begins
  rw [tokens_char visible]
  simp [startingWith, punctuation?, value, numeral, other, sign, h]

/-- A numeral is one token, whatever comes after it. -/
theorem tokens_of_number {cs : List Char} (number : JsonGrammar.Number cs) {rest : List Symbol}
    (ends : Numeral.EndsBefore rest) :
    tokens (cs.map .char ++ rest) = .number (.ofText (String.ofList cs)) :: tokens rest := by
  obtain ⟨n, scanned⟩ := number.exists_scan
  have whole : Numeral.ofText (String.ofList cs) = n := by
    have alone := scanned [] Numeral.endsBefore_nil
    rw [List.append_nil] at alone
    rw [Numeral.ofText, Symbol.ofString, String.toList_ofList, alone]
  have read := scanned rest ends
  obtain ⟨c, ds, rfl, begins⟩ := number.exists_cons
  rw [whole]
  rw [List.map_cons, List.cons_append] at read ⊢
  exact tokens_numeral begins read

theorem tokens_number (n : JsonNumber) {rest : List Symbol} (ends : Numeral.EndsBefore rest) :
    tokens (n.render.toList.map .char ++ rest) = .number (.ofText n.render) :: tokens rest := by
  rw [tokens_of_number (JsonGrammar.number_render n) ends, String.ofList_toList]

theorem tokens_int (n : Int) {rest : List Symbol} (ends : Numeral.EndsBefore rest) :
    tokens ((JsonNumber.int n).render.toList.map .char ++ rest) =
      .number (.ofInt n) :: tokens rest := by
  rw [tokens_number _ ends, Numeral.ofText_int]

end JsonToken

/-! ## Numbers that are read back -/

namespace JsonNumber

/-- Whether a number is read back from its text, wherever that stands. -/
structure ReadsBack (n : JsonNumber) : Prop where
  tokens : ∀ rest, Numeral.EndsBefore rest →
    JsonToken.tokens (n.render.toList.map .char ++ rest) =
      .number (.ofText n.render) :: JsonToken.tokens rest
  value : (Numeral.ofText n.render).value = .ok n

theorem readsBack_int {n : Int} (least : -9223372036854775808 ≤ n)
    (greatest : n ≤ Numeral.greatestUnsigned) : (int n).ReadsBack where
  tokens _ ends := JsonToken.tokens_number _ ends
  value := by rw [Numeral.ofText_int, Numeral.value_ofInt least greatest]

theorem readsBack_minusZero : minusZero.ReadsBack where
  tokens _ ends := JsonToken.tokens_number _ ends
  value := by
    rw [Numeral.ofText_minusZero, Numeral.value, Numeral.double?_of_zero (by decide) rfl]
    rfl

end JsonNumber

end GraphIngest
