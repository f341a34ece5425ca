import GraphIngest.Json.Quoted
import GraphIngest.Json.Numeral

/-!
# Tokens of a JSON text

## Main definitions

* `JsonToken`: a token. A stretch of text that forms none is a token of its own, which says what is
  wrong with it; nothing is scanned after it.
* `JsonToken.tokens`: the tokens of a text.
-/

namespace GraphIngest

inductive JsonToken where
  | openList
  | closeList
  | openObject
  | closeObject
  | comma
  | colon
  | null
  | bool (value : Bool)
  | number (value : Numeral)
  | text (value : Quoted)
  /-- What is wrong where a value is read, and where one is passed over. -/
  | broken (whenRead whenSkipped : Malformed)
  deriving DecidableEq, Repr, Inhabited

namespace JsonToken

/-- Blanks between tokens. -/
def isBlank : Symbol → Bool
  | .char c => c = ' ' || c = '\n' || c = '\t' || c = '\r'
  | .broken _ => false

/-- A word whose first letter was seen: what it stands for, if the rest of it follows. -/
def word (token : JsonToken) : List Char → List Symbol → JsonToken × List Symbol
  | [], rest => (token, rest)
  | _ :: _, [] => (.broken .endInValue .endInValue, [])
  | c :: cs, s :: rest =>
    if s = .char c then word token cs rest else (.broken .expectedIdent .expectedIdent, [])

/-- The numeral that a text begins with. -/
def numeral (s : List Symbol) : JsonToken × List Symbol :=
  match Numeral.scan s with
  | .ok (n, rest) => (.number n, rest)
  | .error e => (.broken (if e.atEnd then .endInValue else .invalidNumber) .invalidNumber, [])

/-- The token of a punctuation character. -/
def punctuation? (c : Char) : Option JsonToken :=
  if c = '[' then some openList
  else if c = ']' then some closeList
  else if c = '\x7b' then some openObject
  else if c = '\x7d' then some closeObject
  else if c = ',' then some comma
  else if c = ':' then some colon
  else none

/-- The token that a letter, a digit, a sign or a quote begins, and what follows it. -/
def value (c : Char) (rest : List Symbol) : JsonToken × List Symbol :=
  if c = '"' then (text (Quoted.scan rest).1, (Quoted.scan rest).2)
  else if c = 'n' then word null ['u', 'l', 'l'] rest
  else if c = 't' then word (bool true) ['r', 'u', 'e'] rest
  else if c = 'f' then word (bool false) ['a', 'l', 's', 'e'] rest
  else if c = '-' || c.isDigit then numeral (.char c :: rest)
  else (broken .expectedValue .expectedValue, [])

/-- The token that begins with a character that is no blank, and what follows it. -/
def startingWith (c : Char) (rest : List Symbol) : JsonToken × List Symbol :=
  match punctuation? c with
  | some t => (t, rest)
  | none => value c rest

/-- The first token of a text, and what follows it. -/
def next? : List Symbol → Option (JsonToken × List Symbol)
  | [] => none
  | s :: rest =>
    if isBlank s then next? rest
    else
      match s with
      | .char c => some (startingWith c rest)
      | .broken _ => some (broken .expectedValue .expectedValue, [])

/-! ## Scanning gets on -/

theorem length_word_le (t : JsonToken) (cs : List Char) (s : List Symbol) :
    (word t cs s).2.length ≤ s.length := by
  fun_induction word t cs s <;> grind

theorem length_numeral_lt (s : List Symbol) (h : s ≠ []) : (numeral s).2.length < s.length := by
  unfold numeral
  split
  · next n rest hs => exact Numeral.length_scan_lt hs
  · simpa [List.length_pos_iff] using h

theorem length_value_le (c : Char) (rest : List Symbol) :
    (value c rest).2.length ≤ rest.length := by
  have hn := length_numeral_lt (.char c :: rest) (by simp)
  rw [List.length_cons] at hn
  unfold value
  split
  · exact Quoted.length_scan_le rest
  split
  · exact length_word_le ..
  split
  · exact length_word_le ..
  split
  · exact length_word_le ..
  split
  · omega
  · exact Nat.zero_le _

theorem length_startingWith_le (c : Char) (rest : List Symbol) :
    (startingWith c rest).2.length ≤ rest.length := by
  unfold startingWith
  split
  · exact Nat.le_refl _
  · exact length_value_le c rest

theorem length_next?_lt {s : List Symbol} {r : JsonToken × List Symbol} (h : next? s = some r) :
    r.2.length < s.length := by
  fun_induction next? s with
  | case1 => simp at h
  | case2 s rest _ ih => have := ih h; simp; omega
  | case3 rest c _ =>
    have := length_startingWith_le c rest
    simp at h
    grind
  | case4 rest n _ => simp at h; grind

/-! ## Tokens -/

/-- The tokens of a text. -/
def tokens (s : List Symbol) : List JsonToken :=
  match _h : next? s with
  | none => []
  | some r => r.1 :: tokens r.2
termination_by s.length
decreasing_by exact length_next?_lt _h

end JsonToken

end GraphIngest
