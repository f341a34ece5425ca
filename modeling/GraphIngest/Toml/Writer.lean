/-!
# Writing texts in TOML

A text is written in the plainest quotes that need no escapes; only if there are none, or if it
holds controls, is it escaped.

## Main definitions

* `Toml.Quotes`: the four kinds of quotes.
* `Toml.quotesFor`: the kind that a text is written in.
* `Toml.quote`: a text in its quotes.
-/

namespace GraphIngest

namespace Toml

/-- Kinds of quotes: with or without escapes, on one line or on several. -/
inductive Quotes where
  | basic
  | literal
  | basicLines
  | literalLines
  deriving DecidableEq, Repr, Inhabited

/-- The greatest number of a character in a row, when so many stand before the text. -/
def longestRun (c : Char) (current : Nat) : List Char → Nat
  | [] => current
  | d :: rest =>
    if d = c then longestRun c (current + 1) rest else max current (longestRun c 0 rest)

/-- Controls that no quotes hold as they are. -/
def isControl (c : Char) : Bool := (c.toNat < 0x20 && c ≠ '\t' && c ≠ '\n') || c.toNat = 0x7F

/-- The quotes that a text is written in. -/
def quotesFor (cs : List Char) : Quotes :=
  let lines := cs.contains '\n'
  let escaped := cs.contains '\\'
  if cs.any isControl then (if lines then .basicLines else .basic)
  else if !escaped ∧ !cs.contains '"' ∧ !lines then .basic
  else if !cs.contains '\'' ∧ !lines then .literal
  else if !escaped ∧ longestRun '"' 0 cs ≤ 2 then .basicLines
  else if longestRun '\'' 0 cs ≤ 2 then .literalLines
  else if lines then .basicLines else .basic

/-- Four hexadecimal digits, upper case. -/
def hex4 (n : Nat) : List Char :=
  [n / 4096 % 16, n / 256 % 16, n / 16 % 16, n % 16].map fun d => (Nat.digitChar d).toUpper

/-- How a character stands between quotes that have escapes. -/
def escapeChar (lines : Bool) (c : Char) : List Char :=
  if c.toNat = 8 then ['\\', 'b']
  else if c = '\t' then ['\\', 't']
  else if c = '\n' then (if lines then ['\n'] else ['\\', 'n'])
  else if c.toNat = 12 then ['\\', 'f']
  else if c = '\r' then ['\\', 'r']
  else if c = '\\' then ['\\', '\\']
  else if c.toNat < 0x20 ∨ c.toNat = 0x7F then ['\\', 'u'] ++ hex4 c.toNat
  else [c]

/-- A text between quotes that have escapes, after so many quotes in a row. On several lines two
quotes in a row may stand as they are. -/
def escapeFrom (lines : Bool) (run : Nat) : List Char → List Char
  | [] => []
  | c :: rest =>
    if c = '"' then
      if run < (if lines then 2 else 0) then '"' :: escapeFrom lines (run + 1) rest
      else '\\' :: '"' :: escapeFrom lines 0 rest
    else escapeChar lines c ++ escapeFrom lines 0 rest

/-- The line end after the opening quotes of a text that has lines. -/
def opening (cs : List Char) : List Char := if cs.contains '\n' then ['\n'] else []

def quoteChars (cs : List Char) : List Char :=
  match quotesFor cs with
  | .basic => '"' :: (escapeFrom false 0 cs ++ ['"'])
  | .literal => '\'' :: (cs ++ ['\''])
  | .basicLines => ['"', '"', '"'] ++ opening cs ++ escapeFrom true 0 cs ++ ['"', '"', '"']
  | .literalLines => ['\'', '\'', '\''] ++ opening cs ++ cs ++ ['\'', '\'', '\'']

/-- A text in its quotes. -/
def quote (s : String) : String := String.ofList (quoteChars s.toList)

end Toml

end GraphIngest
