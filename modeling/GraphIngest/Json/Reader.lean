import GraphIngest.Json.Draft

/-!
# Reading typed values

A reader walks over a draft in the order of its text and reports the first thing that is wrong.
Containers may be nested to a limited depth, unless they are passed over.

## Main definitions

* `JsonReader`: a reader of values of a type.
* `JsonReader.text`, `JsonReader.bool`, `JsonReader.int`, `JsonReader.list`, `JsonReader.optional`,
  `JsonReader.any`: readers of the basic types.
* `JsonReader.run`: read a whole text.
-/

namespace GraphIngest

/-- A reader of values of a type. It is told how many containers may still be opened. -/
abbrev JsonReader (α : Type) := (room : Nat) → Draft → Except ReadError α

namespace JsonReader

/-- So many containers may stand around a value. -/
def greatestDepth : Nat := 127

/-! ## Ends of containers -/

/-- What is wrong with the end of a list. -/
def listEnd : ListEnd → Except Malformed Unit
  | .closed | .cut => .ok ()
  | .endOfInput => .error .endInList
  | .noComma => .error .expectedListComma
  | .commaThenClose => .error .trailingComma
  | .commaThenEnd => .error .endInValue

/-- What is wrong with the end of an object, if no key is to blame: a key that was read is reported
on by `afterKey`. -/
def objectEnd (afterKey : String → Malformed → ReadError) : ObjectEnd → Except ReadError Unit
  | .closed | .cut => .ok ()
  | .endOfInput => .error ⟨[.unknown], .malformed .endInObject⟩
  | .noComma => .error ⟨[.unknown], .malformed .expectedObjectComma⟩
  | .commaThenClose => .error ⟨[.unknown], .malformed .trailingComma⟩
  | .commaThenEnd => .error ⟨[.unknown], .malformed .endInValue⟩
  | .noKey => .error ⟨[.unknown], .malformed .keyNotText⟩
  | .brokenKey q =>
    match q.read with
    | .ok _ => .ok ()
    | .error m => .error ⟨[.unknown], .malformed m⟩
  | .keyThenEnd q =>
    match q.read with
    | .ok name => .error (afterKey name .endInObject)
    | .error m => .error ⟨[.unknown], .malformed m⟩
  | .keyThenOther q =>
    match q.read with
    | .ok name => .error (afterKey name .expectedColon)
    | .error m => .error ⟨[.unknown], .malformed m⟩

/-- The error of a member whose colon is missing. -/
def atKey (name : String) (m : Malformed) : ReadError := ⟨[.key name], .malformed m⟩

/-! ## Steps into values -/

/-- Report an error from one step further out. -/
def under (step : PathStep) (r : Except ReadError α) : Except ReadError α :=
  r.mapError (ReadError.under step)

/-- Report what is malformed, at this place. -/
def here (r : Except Malformed α) : Except ReadError α := r.mapError ReadError.ofMalformed

/-- A key; a key that cannot be read has no name to report it under. -/
def key (q : Quoted) : Except ReadError String := under .unknown (here q.read)

/-- Open a container, if that is not one too many. -/
def enter (room : Nat) : Except ReadError Nat :=
  match room with
  | 0 => .error (.ofMalformed .tooDeep)
  | room + 1 => .ok room

/-! ## Values that do not fit -/

/-- What a number is called. -/
def foundNumber : JsonNumber → Found
  | .int n => .int n
  | x => .float x.render

/-- What stands in a place. A container is named without a look inside it. -/
def found : Draft → Except ReadError Found
  | .null => .ok .null
  | .bool b => .ok (.bool b)
  | .number n => foundNumber <$> here n.value
  | .text q => .text <$> here q.read
  | .array _ _ => .ok .sequence
  | .object _ _ => .ok .map
  | .broken whenRead _ => .error (.ofMalformed whenRead)
  | .missing => .error (.ofMalformed .endInValue)

/-- Refuse a value of another type. -/
def refuse (expected : String) (d : Draft) : Except ReadError α := do
  throw (.ofMismatch (.wrongType (← found d) expected))

/-! ## Basic types -/

def text : JsonReader String
  | _, .text q => here q.read
  | _, d => refuse "a string" d

def bool : JsonReader Bool
  | _, .bool b => .ok b
  | _, d => refuse "a boolean" d

/-- An integer within bounds. -/
def int (least greatest : Int) (expected : String) : JsonReader Int
  | _, .number n => do
    match ← here n.value with
    | .int m =>
      if least ≤ m ∧ m ≤ greatest then return m
      else throw (.ofMismatch (.wrongValue (.int m) expected))
    | x => throw (.ofMismatch (.wrongType (foundNumber x) expected))
  | _, d => refuse expected d

/-- Null, or a value. -/
def optional (read : JsonReader α) : JsonReader (Option α)
  | _, .null => .ok none
  | room, d => some <$> read room d

/-- The items of a list, the first of which has a number. -/
def items (read : Draft → Except ReadError α) (index : Nat) : List Draft → Except ReadError (List α)
  | [] => .ok []
  | d :: rest => do
    let v ← under (.index index) (read d)
    let vs ← items read (index + 1) rest
    return v :: vs

def list (read : JsonReader α) : JsonReader (List α)
  | room, .array ds ending => do
    let room ← enter room
    let vs ← items (read room) 0 ds
    under (.index ds.length) (here (listEnd ending))
    return vs
  | _, d => refuse "a sequence" d

mutual

/-- A value of any kind. -/
def any : JsonReader Json
  | _, .null => .ok .null
  | _, .bool b => .ok (.bool b)
  | _, .number n => .number <$> here n.value
  | _, .text q => .text <$> here q.read
  | _, .broken whenRead _ => .error (.ofMalformed whenRead)
  | _, .missing => .error (.ofMalformed .endInValue)
  | room, .array ds ending => do
    let room ← enter room
    let vs ← anyItems room 0 ds
    under (.index ds.length) (here (listEnd ending))
    return .array vs
  | room, .object ms ending => do
    let room ← enter room
    let vs ← anyMembers room ms
    objectEnd atKey ending
    return Json.ofMembers vs

def anyItems (room index : Nat) : List Draft → Except ReadError (List Json)
  | [] => .ok []
  | d :: rest => do
    let v ← under (.index index) (any room d)
    let vs ← anyItems room (index + 1) rest
    return v :: vs

def anyMembers (room : Nat) : List (Quoted × Draft) → Except ReadError (List (String × Json))
  | [] => .ok []
  | (q, d) :: rest => do
    let name ← key q
    let v ← under (.key name) (any room d)
    let vs ← anyMembers room rest
    return (name, v) :: vs

end

/-! ## Whole texts -/

/-- Read a whole text: nothing but blanks may follow the value. -/
def run (read : JsonReader α) (s : List Symbol) : Except ReadError α := do
  let (d, rest) := Draft.build (JsonToken.tokens s)
  let v ← read greatestDepth d
  if rest.isEmpty then return v else throw (.ofMalformed .trailingCharacters)

end JsonReader

end GraphIngest
