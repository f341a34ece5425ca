import GraphIngest.Text.Digit
import GraphIngest.Text.Symbol
import GraphIngest.Json.Error

/-!
# Quoted texts

A quoted text is scanned once into its pieces. Reading it as a text also checks that the pieces form
characters; skipping it does not.

## Main definitions

* `Quoted`: the pieces of a quoted text, and how it ended.
* `Quoted.scan`: scan what follows an opening quote.
* `Quoted.read`, `Quoted.skip`: the text, or why there is none; whether it may be passed over.
-/

namespace GraphIngest

/-- A piece of a quoted text. -/
inductive QuotedPiece where
  /-- A character, or a short escape for one. -/
  | char (c : Char)
  /-- A sixteen-bit unit, spelled in hexadecimal. -/
  | unit (n : Nat)
  /-- Bytes that are no character. -/
  | broken
  deriving DecidableEq, Repr, Inhabited

/-- How a quoted text ended. -/
inductive QuotedEnd where
  | closed
  | endOfInput
  | badHex
  | badEscape
  | control
  deriving DecidableEq, Repr, Inhabited

/-- A quoted text as it was scanned. -/
structure Quoted where
  pieces : List QuotedPiece
  ending : QuotedEnd
  deriving DecidableEq, Repr, Inhabited

namespace Quoted

/-- Put a piece in front. -/
def cons (p : QuotedPiece) (q : Quoted) : Quoted := { q with pieces := p :: q.pieces }

/-- The unit that four symbols spell. -/
def unit? : Symbol → Symbol → Symbol → Symbol → Option Nat
  | .char a, .char b, .char c, .char d => do
    return (← Digit.value? a) * 4096 + (← Digit.value? b) * 256 + (← Digit.value? c) * 16 +
      (← Digit.value? d)
  | _, _, _, _ => none

/-- The character of a short escape. -/
def shortEscape? (c : Char) : Option Char :=
  if c = '"' then some '"'
  else if c = '\\' then some '\\'
  else if c = '/' then some '/'
  else if c = 'b' then some (Char.ofNat 8)
  else if c = 'f' then some (Char.ofNat 12)
  else if c = 'n' then some '\n'
  else if c = 'r' then some '\r'
  else if c = 't' then some '\t'
  else none

/-- How a text ends whose four digits are missing: the input may have had too few bytes for them. -/
def endWithoutDigits (rest : List Symbol) : QuotedEnd :=
  if 4 ≤ Symbol.byteLength (rest.take 4) then .badHex else .endOfInput

/-- Scan what follows an opening quote, up to the closing one or to where the text breaks off. -/
def scan : List Symbol → Quoted × List Symbol
  | [] => (⟨[], .endOfInput⟩, [])
  | .broken _ :: rest => let r := scan rest; (r.1.cons .broken, r.2)
  | .char '\\' :: .char 'u' :: a :: b :: c :: d :: rest =>
    match unit? a b c d with
    | some n => let r := scan rest; (r.1.cons (.unit n), r.2)
    | none => (⟨[], endWithoutDigits [a, b, c, d]⟩, [])
  | .char '\\' :: .char 'u' :: rest => (⟨[], endWithoutDigits rest⟩, [])
  | .char '\\' :: .char c :: rest =>
    match shortEscape? c with
    | some c => let r := scan rest; (r.1.cons (.char c), r.2)
    | none => (⟨[], .badEscape⟩, [])
  | .char '\\' :: .broken _ :: _ => (⟨[], .badEscape⟩, [])
  | [.char '\\'] => (⟨[], .endOfInput⟩, [])
  | .char c :: rest =>
    if c = '"' then (⟨[], .closed⟩, rest)
    else if c.toNat < 32 then (⟨[], .control⟩, rest)
    else let r := scan rest; (r.1.cons (.char c), r.2)

theorem length_scan_le (s : List Symbol) : (scan s).2.length ≤ s.length := by
  fun_induction scan s <;> grind

/-! ## Reading -/

def isLeading (n : Nat) : Bool := 0xD800 ≤ n && n ≤ 0xDBFF

def isTrailing (n : Nat) : Bool := 0xDC00 ≤ n && n ≤ 0xDFFF

/-- The character of a pair of surrogates. -/
def pairChar (leading trailing : Nat) : Char :=
  Char.ofNat (0x10000 + (leading - 0xD800) * 1024 + (trailing - 0xDC00))

/-- What breaks off a text that ended so. -/
def QuotedEnd.malformed? : QuotedEnd → Option Malformed
  | .closed => none
  | .endOfInput => some .endInText
  | .badHex => some .invalidEscape
  | .badEscape => some .invalidEscape
  | .control => some .controlCharacter

/-- What is wrong with a leading surrogate after which the text ended so. -/
def malformedPair : QuotedEnd → Malformed
  | .endOfInput => .endInText
  | .badHex => .invalidEscape
  | .closed | .badEscape | .control => .unfinishedPair

/-- The characters that pieces form; nothing stands for bytes that are no character. -/
def decode (ending : QuotedEnd) : List QuotedPiece → Except Malformed (List (Option Char))
  | [] =>
    match QuotedEnd.malformed? ending with
    | some m => .error m
    | none => .ok []
  | .char c :: rest => (some c :: ·) <$> decode ending rest
  | .broken :: rest => (none :: ·) <$> decode ending rest
  | .unit n :: rest =>
    if isTrailing n then .error .loneSurrogate
    else if isLeading n then
      match rest with
      | .unit m :: rest =>
        if isTrailing m then (some (pairChar n m) :: ·) <$> decode ending rest
        else .error .loneSurrogate
      | [] => .error (malformedPair ending)
      | _ => .error .unfinishedPair
    else (some (Char.ofNat n) :: ·) <$> decode ending rest

/-- The text. That its bytes are characters is checked last. -/
def read (q : Quoted) : Except Malformed String := do
  let chars ← decode q.ending q.pieces
  match chars.mapM id with
  | some cs => return String.ofList cs
  | none => throw .invalidCodePoint

/-- Whether the text may be passed over. -/
def skip (q : Quoted) : Except Malformed Unit :=
  match QuotedEnd.malformed? q.ending with
  | some m => .error m
  | none => .ok ()

end Quoted

end GraphIngest
