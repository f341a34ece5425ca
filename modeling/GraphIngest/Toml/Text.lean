import GraphIngest.Text.Digit

/-!
# Blanks, keys and texts of TOML

A reader takes what it wants from the front of a text and gives back the rest.

## Main definitions

* `TomlReader`: a reader.
* `Toml.skipBlank`, `Toml.skipLines`, `Toml.lineEnd`: blanks, comments and ends of lines.
* `Toml.text`: a text in any of the four kinds of quotes.
* `Toml.keyPath`: a key, or several with points between them.
-/

namespace GraphIngest

/-- A reader of something at the front of a text. It gives back the rest of the text. -/
abbrev TomlReader (α : Type) := List Char → Option (α × List Char)

namespace Toml

/-! ## Blanks and comments -/

def isBlank (c : Char) : Bool := c = ' ' || c = '\t'

/-- What follows blanks on one line. -/
def skipBlank (cs : List Char) : List Char := cs.dropWhile isBlank

/-- What follows the end of a line, if the text begins with one. -/
def newline? : List Char → Option (List Char)
  | '\n' :: rest => some rest
  | '\r' :: '\n' :: rest => some rest
  | _ => none

/-- Characters of a comment. -/
def isCommentChar (c : Char) : Bool := c = '\t' || (0x20 ≤ c.toNat && c.toNat ≠ 0x7F)

/-- What follows a comment, if the text begins with one. -/
def skipComment : List Char → List Char
  | '#' :: rest => rest.dropWhile isCommentChar
  | rest => rest

/-- What follows the rest of a line that holds nothing but blanks and a comment. -/
def lineEnd (cs : List Char) : Option (List Char) :=
  match skipComment (skipBlank cs) with
  | [] => some []
  | rest => newline? rest

/-- What follows lines that hold nothing but blanks and comments. -/
def skipLines (cs : List Char) : List Char :=
  let rest := skipComment (skipBlank cs)
  match newline? rest with
  | some after => if after.length < cs.length then skipLines after else after
  | none => rest
termination_by cs.length

/-! ## Texts in quotes -/

/-- Characters that may stand for themselves in a text. -/
def isPlain (c : Char) : Bool := c = '\t' || (0x20 ≤ c.toNat && c.toNat ≠ 0x7F)

/-- The character of so many hexadecimal digits. -/
def codePoint? (digits : Nat) (cs : List Char) : Option Char := do
  if cs.length < digits then none
  let n ← Digit.natOf? 16 (cs.take digits)
  if n.isValidChar then some (Char.ofNat n) else none

/-- The character of what follows a backslash, and how long that is. -/
def escape? : List Char → Option (Char × Nat)
  | [] => none
  | c :: rest =>
    if c = 'b' then some (Char.ofNat 8, 1)
    else if c = 't' then some ('\t', 1)
    else if c = 'n' then some ('\n', 1)
    else if c = 'f' then some (Char.ofNat 12, 1)
    else if c = 'r' then some ('\r', 1)
    else if c = '"' then some ('"', 1)
    else if c = '\\' then some ('\\', 1)
    else if c = 'u' then (codePoint? 4 rest).map (·, 5)
    else if c = 'U' then (codePoint? 8 rest).map (·, 9)
    else none

/-- Put a character in front of a text that is read. -/
def cons (c : Char) (r : Option (List Char × List Char)) : Option (List Char × List Char) :=
  r.map fun r => (c :: r.1, r.2)

/-- A text with escapes up to its closing quote, after some characters that were dealt with. -/
def basicAfter : (skip : Nat) → TomlReader (List Char)
  | _, [] => none
  | skip + 1, _ :: rest => basicAfter skip rest
  | 0, c :: rest =>
    if c = '"' then some ([], rest)
    else if c = '\\' then
      match escape? rest with
      | some (e, n) => cons e (basicAfter n rest)
      | none => none
    else if isPlain c then cons c (basicAfter 0 rest)
    else none

/-- A text without escapes up to its closing quote. -/
def literal : TomlReader (List Char)
  | [] => none
  | c :: rest =>
    if c = '\'' then some ([], rest)
    else if isPlain c then cons c (literal rest)
    else none

/-- How many quotes close a text of several lines: three, and before them up to two that belong to
the text. -/
def closing (quote : Char) (cs : List Char) : Nat := min 5 (cs.takeWhile (· = quote)).length

/-- How many characters blanks and ends of lines take. -/
def blankRun : List Char → Nat
  | '\r' :: '\n' :: rest => blankRun rest + 2
  | c :: rest => if isBlank c || c = '\n' then blankRun rest + 1 else 0
  | [] => 0

/-- What a backslash skips at the end of a line: everything up to the next character that is no
blank. -/
def lineContinuation? (cs : List Char) : Option Nat :=
  match newline? (skipBlank cs) with
  | some _ => some (blankRun cs)
  | none => none

/-- A text of several lines up to its closing quotes, after some characters that were dealt with.
Ends of lines are all written the same way. -/
def linesAfter (quote : Char) (escapes : Bool) : (skip : Nat) → TomlReader (List Char)
  | _, [] => none
  | skip + 1, _ :: rest => linesAfter quote escapes skip rest
  | 0, c :: rest =>
    if c = quote then
      let run := closing quote (c :: rest)
      if 3 ≤ run then some (List.replicate (run - 3) quote, rest.drop (run - 1))
      else cons c (linesAfter quote escapes 0 rest)
    else if c = '\\' ∧ escapes then
      match escape? rest, lineContinuation? rest with
      | some (e, n), _ => cons e (linesAfter quote escapes n rest)
      | none, some n => linesAfter quote escapes n rest
      | none, none => none
    else if c = '\r' then
      if rest.head? = some '\n' then linesAfter quote escapes 0 rest else none
    else if c = '\n' ∨ isPlain c then cons c (linesAfter quote escapes 0 rest)
    else none

/-- A text of several lines; an end of line right after the opening quotes is not part of it. -/
def lines (quote : Char) (escapes : Bool) (cs : List Char) : Option (List Char × List Char) :=
  linesAfter quote escapes 0 ((newline? cs).getD cs)

/-- Give what was read as a string. -/
def asString (r : Option (List Char × List Char)) : Option (String × List Char) :=
  r.map fun r => (String.ofList r.1, r.2)

/-- A text in any kind of quotes. -/
def text : TomlReader String
  | '"' :: '"' :: '"' :: rest => asString (lines '"' true rest)
  | '"' :: rest => asString (basicAfter 0 rest)
  | '\'' :: '\'' :: '\'' :: rest => asString (lines '\'' false rest)
  | '\'' :: rest => asString (literal rest)
  | _ => none

/-! ## Keys -/

def isKeyChar (c : Char) : Bool := c.isAlphanum || c = '_' || c = '-'

/-- One key, bare or in quotes of one line. -/
def key : TomlReader String
  | '"' :: rest => asString (basicAfter 0 rest)
  | '\'' :: rest => asString (literal rest)
  | cs =>
    let bare := cs.takeWhile isKeyChar
    if bare.isEmpty then none else some (String.ofList bare, cs.dropWhile isKeyChar)

/-- Keys with points between them, and blanks around each; so many at most. -/
def keys : (greatest : Nat) → TomlReader (List String)
  | 0, _ => none
  | n + 1, cs => do
    let (k, rest) ← key (skipBlank cs)
    match skipBlank rest with
    | '.' :: rest => do
      let (ks, rest) ← keys n rest
      return (k :: ks, rest)
    | rest => return ([k], rest)

/-- How many containers or keys may stand inside each other. -/
def greatestDepth : Nat := 79

/-- A key, or several with points between them: those that lead to a table, and the last. -/
def keyPath : TomlReader (List String × String) := fun cs => do
  let (ks, rest) ← keys greatestDepth cs
  return ((ks.dropLast, ks.getLastD ""), rest)

end Toml

end GraphIngest
