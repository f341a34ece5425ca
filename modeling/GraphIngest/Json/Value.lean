import GraphIngest.Decimal.Layout

/-!
# JSON values and their compact text

## Main definitions

* `Json`: a value. The members of an object are a list, so that a value says in which order it is
  written.
* `Json.render`: the compact text of a value.
* `Json.ofMembers`: an object with its members sorted by name, the last of equal names.
-/

namespace GraphIngest

/-- A number. Integers are exact; the others keep the precision they were given in, which decides
how many digits are written. -/
inductive JsonNumber where
  | int (value : Int)
  | double (value : BinaryFloat)
  | single (value : BinaryFloat)
  deriving DecidableEq, Repr, Inhabited

inductive Json where
  | null
  | bool (value : Bool)
  | number (value : JsonNumber)
  | text (value : String)
  | array (items : List Json)
  | object (members : List (String × Json))
  deriving Repr, Inhabited, BEq

namespace JsonNumber

/-- Sixty-four bit numbers are written with a plain point from `1e-5` up to below `1e16`. -/
def doubleLayout : DecimalLayout := .between (-5) 15

/-- Thirty-two bit numbers are written with a plain point from `1e-6` up to below `1e13`. -/
def singleLayout : DecimalLayout := .between (-6) 12

def render : JsonNumber → String
  | int n => toString n
  | double x => doubleLayout.render x.negative (x.shortest .double)
  | single x => singleLayout.render x.negative (x.shortest .single)

end JsonNumber

namespace Json

/-! ## Constructors -/

def int (n : Int) : Json := number (.int n)

def nat (n : Nat) : Json := number (.int n)

/-- A text or null. -/
def textOrNull : Option String → Json
  | some s => text s
  | none => null

def texts (items : List String) : Json := array (items.map text)

/-- Put a member in its place among members that are sorted by name; an equal name is replaced. -/
def insertMember (name : String) (value : Json) : List (String × Json) → List (String × Json)
  | [] => [(name, value)]
  | (n, v) :: rest =>
    if name < n then (name, value) :: (n, v) :: rest
    else if name = n then (name, value) :: rest
    else (n, v) :: insertMember name value rest

/-- The object of a list of members as they were given: sorted, and the last of equal names. -/
def ofMembers (members : List (String × Json)) : Json :=
  object (members.foldl (fun sorted m => insertMember m.1 m.2 sorted) [])

/-- The member of a name. -/
def get? (name : String) : Json → Option Json
  | object members => members.lookup name
  | _ => none

/-! ## Compact text -/

/-- How a character stands inside a quoted text. -/
def escape (c : Char) : List Char :=
  if c = '"' then ['\\', '"']
  else if c = '\\' then ['\\', '\\']
  else if c = '\n' then ['\\', 'n']
  else if c = '\r' then ['\\', 'r']
  else if c = '\t' then ['\\', 't']
  else if c.toNat = 8 then ['\\', 'b']
  else if c.toNat = 12 then ['\\', 'f']
  else if c.toNat < 32 then
    ['\\', 'u', '0', '0', Nat.digitChar (c.toNat / 16), Nat.digitChar (c.toNat % 16)]
  else [c]

def quotedChars (s : String) : List Char := '"' :: (s.toList.flatMap escape ++ ['"'])

/-- A text in quotes. -/
def quoted (s : String) : String := String.ofList (quotedChars s)

mutual

/-- The characters of a value's compact text. -/
def chars : Json → List Char
  | null => ['n', 'u', 'l', 'l']
  | bool true => ['t', 'r', 'u', 'e']
  | bool false => ['f', 'a', 'l', 's', 'e']
  | number n => n.render.toList
  | text s => quotedChars s
  | array items => '[' :: (itemsChars items ++ [']'])
  | object members => '{' :: (membersChars members ++ ['}'])

/-- Items with commas between them. -/
def itemsChars : List Json → List Char
  | [] => []
  | [v] => chars v
  | v :: rest => chars v ++ ',' :: itemsChars rest

/-- Members with commas between them. -/
def membersChars : List (String × Json) → List Char
  | [] => []
  | [(name, v)] => quotedChars name ++ ':' :: chars v
  | (name, v) :: rest => quotedChars name ++ ':' :: (chars v ++ ',' :: membersChars rest)

end

/-- The compact text of a value. -/
def render (v : Json) : String := String.ofList v.chars

end Json

end GraphIngest
