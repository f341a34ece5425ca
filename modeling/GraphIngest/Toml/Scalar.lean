import GraphIngest.Toml.Text
import GraphIngest.Toml.Value

/-!
# Scalars of TOML

## Main definitions

* `Toml.number`, `Toml.date`: numbers and dates.
* `Toml.scalar`: any value without parts.
-/

namespace GraphIngest

namespace Toml

/-- A word at the front of a text. -/
def word (w : String) (cs : List Char) : Option (List Char) :=
  if w.toList.isPrefixOf cs then some (cs.drop w.toList.length) else none

/-! ## Numbers -/

/-- Digits that may have single underscores between them; the underscores are left out. -/
def digitsAfter (isDigit : Char → Bool) : List Char → List Char × List Char
  | '_' :: c :: rest =>
    if isDigit c then
      let r := digitsAfter isDigit rest
      (c :: r.1, r.2)
    else ([], '_' :: c :: rest)
  | c :: rest =>
    if isDigit c then
      let r := digitsAfter isDigit rest
      (c :: r.1, r.2)
    else ([], c :: rest)
  | [] => ([], [])

/-- At least one digit, and perhaps more with underscores between them. -/
def digits (isDigit : Char → Bool) : TomlReader (List Char)
  | c :: rest =>
    if isDigit c then
      let r := digitsAfter isDigit rest
      some (c :: r.1, r.2)
    else none
  | [] => none

/-- Decimal digits of which the first is no zero, unless it is the only one. -/
def decimal : TomlReader (List Char)
  | '0' :: rest => some (['0'], rest)
  | cs => digits Char.isDigit cs

def greatestInt : Nat := 9223372036854775807

/-- A number that was spelled in a base without a sign. -/
def based (base : Nat) (cs : List Char) : Option (TomlScalar × List Char) := do
  let (ds, rest) ← digits (fun c => (Digit.value? c).any (· < base)) cs
  let n ← Digit.natOf? base ds
  if n ≤ greatestInt then some (.int n, rest) else none

/-- The fraction after a point. -/
def fraction? : List Char → Option (List Char × List Char)
  | '.' :: rest => digits Char.isDigit rest
  | _ => none

/-- The exponent after its mark, with its sign. -/
def exponent? : List Char → Option (List Char × List Char)
  | c :: rest =>
    if c = 'e' ∨ c = 'E' then
      let (sign, rest) := DecimalText.sign rest
      (digits Char.isDigit rest).map fun r => ((if sign then '-' :: r.1 else r.1), r.2)
    else none
  | [] => none

/-- The double that a text denotes. No text denotes positive infinity but the word for it. -/
def double (cs : List Char) : Option TomlScalar :=
  match FloatFormat.double.read? cs with
  | some (.infinite false) => none
  | some x => some (.float x)
  | none => none

/-- A number after its sign: with a fraction or an exponent it is a floating-point number. -/
def signedNumber (negative : Bool) (cs : List Char) : Option (TomlScalar × List Char) := do
  let sign := if negative then ['-'] else []
  let (whole, rest) ← decimal cs
  match fraction? rest with
  | some (part, rest) =>
    match exponent? rest with
    | some (e, rest) => return (← double (sign ++ whole ++ '.' :: part ++ 'e' :: e), rest)
    | none => return (← double (sign ++ whole ++ '.' :: part), rest)
  | none =>
    match exponent? rest with
    | some (e, rest) => return (← double (sign ++ whole ++ 'e' :: e), rest)
    | none =>
      let n := Digit.natOf whole
      if n ≤ (if negative then greatestInt + 1 else greatestInt) then
        return (.int (if negative then -n else n), rest)
      else none

/-- A number. -/
def number (cs : List Char) : Option (TomlScalar × List Char) :=
  match cs with
  | '0' :: 'x' :: rest => based 16 rest
  | '0' :: 'o' :: rest => based 8 rest
  | '0' :: 'b' :: rest => based 2 rest
  | _ =>
    let (negative, rest) := DecimalText.sign cs
    match word "inf" rest, word "nan" rest with
    | some rest, _ => some (.float (.infinite negative), rest)
    | none, some rest => some (.float .notANumber, rest)
    | none, none => signedNumber negative rest

/-! ## Dates and times -/

/-- A number of so many digits within bounds. -/
def field (width least greatest : Nat) (cs : List Char) : Option (Nat × List Char) :=
  let ds := cs.take width
  let n := Digit.natOf ds
  if ds.length = width ∧ ds.all Char.isDigit ∧ least ≤ n ∧ n ≤ greatest then
    some (n, cs.drop width)
  else none

/-- One character. -/
def mark (c : Char) : List Char → Option (List Char)
  | d :: rest => if c = d then some rest else none
  | [] => none

def isLeapYear (year : Nat) : Bool :=
  year % 4 = 0 && (year % 100 ≠ 0 || year % 400 = 0)

def daysOf (year month : Nat) : Nat :=
  if month = 2 then (if isLeapYear year then 29 else 28)
  else if month = 4 ∨ month = 6 ∨ month = 9 ∨ month = 11 then 30
  else 31

/-- A day: year, month and day of the month. -/
def day (cs : List Char) : Option (List Char) := do
  let (y, rest) ← field 4 0 9999 cs
  let (m, rest) ← field 2 1 12 (← mark '-' rest)
  let (_, rest) ← field 2 1 (daysOf y m) (← mark '-' rest)
  return rest

/-- A time of day, perhaps with a fraction of a second. -/
def time (cs : List Char) : Option (List Char) := do
  let (_, rest) ← field 2 0 23 cs
  let (_, rest) ← field 2 0 59 (← mark ':' rest)
  let (_, rest) ← field 2 0 60 (← mark ':' rest)
  match rest with
  | '.' :: c :: after => if c.isDigit then return after.dropWhile Char.isDigit else return rest
  | _ => return rest

/-- How far a time is from universal time. -/
def offset : List Char → Option (List Char)
  | c :: rest =>
    if c = 'z' ∨ c = 'Z' then some rest
    else if c = '+' ∨ c = '-' then do
      let (_, rest) ← field 2 0 23 rest
      let (_, rest) ← field 2 0 59 (← mark ':' rest)
      return rest
    else none
  | [] => none

/-- A time after a day, if there is one. -/
def timeAfterDay (cs : List Char) : List Char :=
  match cs with
  | c :: rest =>
    if c = 'T' ∨ c = 't' ∨ c = ' ' then
      match time rest with
      | some after => (offset after).getD after
      | none => cs
    else cs
  | [] => cs

/-- A day, a time of day, or both. -/
def date (cs : List Char) : Option (TomlScalar × List Char) :=
  match day cs with
  | some rest => some (.date, timeAfterDay rest)
  | none => (time cs).map (.date, ·)

/-! ## Any scalar -/

def truth (cs : List Char) : Option (TomlScalar × List Char) :=
  match word "true" cs, word "false" cs with
  | some rest, _ => some (.bool true, rest)
  | none, some rest => some (.bool false, rest)
  | none, none => none

/-- Any value without parts. -/
def scalar (cs : List Char) : Option (TomlScalar × List Char) :=
  match cs with
  | [] => none
  | c :: _ =>
    if c = '"' ∨ c = '\'' then (text cs).map fun r => (.text r.1, r.2)
    else if c = 't' ∨ c = 'f' then truth cs
    else
      match date cs with
      | some r => some r
      | none => number cs

end Toml

end GraphIngest
