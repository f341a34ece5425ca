import GraphIngest.Mismatch

/-!
# Errors of reading JSON

A text fails to be read because it is no JSON, because it ends too early, or because a value does
not fit. The error also says where it arose.

## Main definitions

* `Malformed`: how a text fails to be JSON.
* `ReadError`: a cause and the path to it.
* `ReadError.message`, `ReadError.located`: its wording, without and with the path.
-/

namespace GraphIngest

/-- How a text fails to be JSON. -/
inductive Malformed where
  | endInValue
  | endInList
  | endInObject
  | endInText
  | expectedColon
  | expectedListComma
  | expectedObjectComma
  | expectedIdent
  | expectedValue
  | invalidEscape
  | invalidNumber
  | numberOutOfRange
  | invalidCodePoint
  | controlCharacter
  | keyNotText
  | loneSurrogate
  | unfinishedPair
  | trailingComma
  | trailingCharacters
  | tooDeep
  deriving DecidableEq, Repr, Inhabited

namespace Malformed

/-- Whether more input could have mended the text. -/
def isEnd : Malformed → Bool
  | endInValue | endInList | endInObject | endInText => true
  | _ => false

def message : Malformed → String
  | endInValue => "EOF while parsing a value"
  | endInList => "EOF while parsing a list"
  | endInObject => "EOF while parsing an object"
  | endInText => "EOF while parsing a string"
  | expectedColon => "expected `:`"
  | expectedListComma => "expected `,` or `]`"
  | expectedObjectComma => "expected `,` or `\x7d`"
  | expectedIdent => "expected ident"
  | expectedValue => "expected value"
  | invalidEscape => "invalid escape"
  | invalidNumber => "invalid number"
  | numberOutOfRange => "number out of range"
  | invalidCodePoint => "invalid unicode code point"
  | controlCharacter => "control character (\\u0000-\\u001F) found while parsing a string"
  | keyNotText => "key must be a string"
  | loneSurrogate => "lone leading surrogate in hex escape"
  | unfinishedPair => "unexpected end of hex escape"
  | trailingComma => "trailing comma"
  | trailingCharacters => "trailing characters"
  | tooDeep => "recursion limit exceeded"

end Malformed

/-- One step from a value to a part of it. -/
inductive PathStep where
  | index (n : Nat)
  | key (name : String)
  /-- A key that was not read to its end, or that no field is known for. -/
  | unknown
  deriving DecidableEq, Repr, Inhabited

/-- Why a text cannot be read as a value of the wanted type. -/
inductive ReadCause where
  | malformed (m : Malformed)
  | mismatch (m : Mismatch)
  deriving DecidableEq, Repr, Inhabited

/-- A cause, and the way from the outermost value to the place where it arose. -/
structure ReadError where
  path : List PathStep
  cause : ReadCause
  deriving DecidableEq, Repr, Inhabited

/-- The three kinds of errors that callers tell apart. -/
inductive ReadErrorKind where
  /-- The text is not JSON. -/
  | malformed
  /-- The text ends too early. -/
  | ended
  /-- A value does not fit. -/
  | mismatch
  deriving DecidableEq, Repr, Inhabited

namespace ReadError

def ofMalformed (m : Malformed) : ReadError := ⟨[], .malformed m⟩

def ofMismatch (m : Mismatch) : ReadError := ⟨[], .mismatch m⟩

/-- The same error seen from one step further out. -/
def under (step : PathStep) (e : ReadError) : ReadError := { e with path := step :: e.path }

def kind (e : ReadError) : ReadErrorKind :=
  match e.cause with
  | .malformed m => if m.isEnd then .ended else .malformed
  | .mismatch _ => .mismatch

/-- The words for the cause. -/
def message (e : ReadError) : String :=
  match e.cause with
  | .malformed m => m.message
  | .mismatch m => m.message

/-- One step as it is written after the steps before it. -/
def stepText (first : Bool) : PathStep → String
  | .index n => "[" ++ toString n ++ "]"
  | .key name => if first then name else "." ++ name
  | .unknown => if first then "?" else ".?"

/-- The path in words. -/
def pathText : List PathStep → String
  | [] => ""
  | step :: rest => stepText true step ++ String.join (rest.map (stepText false))

/-- The words for the cause after the path to it; a path that names nothing is left out. -/
def located (e : ReadError) : String :=
  if e.path.all (· == .unknown) then e.message else pathText e.path ++ ": " ++ e.message

end ReadError

end GraphIngest
