import GraphIngest.Text.Blank

/-!
# Media types

## Main definitions

* `MediaType`: the type, the subtype and the suffix of a media type.
* `MediaType.parse?`: the media type that a header names, whatever its parameters are.
* `MediaType.isJson`: whether it is a type of JSON.
-/

namespace GraphIngest

/-- A media type without its parameters. -/
structure MediaType where
  type : List Char
  subtype : List Char
  /-- What follows the last plus sign. -/
  suffix : Option (List Char) := none
  deriving DecidableEq, Repr, Inhabited

namespace MediaType

/-- Characters of the names in a media type. -/
def isNameChar (c : Char) : Bool := c.isAlphanum || "!#$%&'+-.^_\x60|~".toList.contains c

/-! ## Parameters -/

/-- Where a reader of parameters stands. -/
inductive Place where
  /-- Before a parameter. -/
  | start
  | name
  /-- Before a value. -/
  | equals
  | value
  | quoted
  /-- After a backslash in quotes. -/
  | escaped
  | closed
  deriving DecidableEq, Repr, Inhabited

/-- Whether a character may stand in quotes. -/
def isQuotable (c : Char) : Bool := ' ' ≤ c && c.toNat < 127

/-- Where a reader of parameters stands after one more character, if that may follow. -/
def Place.step (p : Place) (c : Char) : Option Place :=
  match p with
  | start => if c = ' ' then some start else if isNameChar c then some name else none
  | name => if c = '=' then some equals else if isNameChar c then some name else none
  | equals => if c = '"' then some quoted else if isNameChar c then some value else none
  | value => if c = ';' then some start else if isNameChar c then some value else none
  | quoted =>
    if c = '"' then some closed
    else if c = '\\' then some escaped
    else if isQuotable c then some quoted
    else none
  | escaped => if isQuotable c then some quoted else none
  | closed => if c = ';' then some start else if c = ' ' then some closed else none

/-- Whether parameters may end here. The last value may be missing. -/
def Place.mayEnd : Place → Bool
  | start | equals | value | closed => true
  | name | quoted | escaped => false

/-- Whether a text is a list of parameters. -/
def areParameters (cs : List Char) : Bool :=
  ((cs.foldlM Place.step .start).map Place.mayEnd).getD false

/-! ## Types -/

/-- A text split at its last plus sign, which is not its first character. -/
def splitSuffix (cs : List Char) : List Char × Option (List Char) :=
  let back := cs.reverse
  let suffix := back.takeWhile (· ≠ '+')
  match back.dropWhile (· ≠ '+') with
  | _ :: c :: front => ((c :: front).reverse, some suffix.reverse)
  | _ => (cs, none)

/-- The media type that a text names. Neither case nor blanks around it matter. -/
def parse? (s : String) : Option MediaType := do
  let cs := (Blank.trimLine s.toList).map Char.toLower
  let type := cs.takeWhile isNameChar
  let '/' :: rest := cs.dropWhile isNameChar | none
  let name := rest.takeWhile isNameChar
  if type.isEmpty ∨ name.isEmpty then none
  let (subtype, suffix) := splitSuffix name
  match rest.dropWhile isNameChar with
  | [] => some ⟨type, subtype, suffix⟩
  | c :: parameters =>
    if (c = ';' ∨ c = ' ') ∧ areParameters parameters then some ⟨type, subtype, suffix⟩ else none

/-- Whether a media type is a type of JSON. -/
def isJson (m : MediaType) : Bool :=
  let json := "json".toList
  m.type = "application".toList && (m.subtype = json || m.suffix = some json)

end MediaType

end GraphIngest
