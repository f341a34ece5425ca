import GraphIngest.Json.Reader

/-!
# Reading records

A record is written as an object with its fields as members, in any order, or, unless its format
says otherwise, as a list of its fields in the order of their declaration. Members that no field is
known for are passed over, unless the format keeps them.

## Main definitions

* `RecordField`: a field, as it is read into a partly filled record.
* `RecordFormat`: the fields of a record, and how it is completed.
* `RecordFormat.read`: the reader of the record.
-/

namespace GraphIngest

/-- A field of a record that is filled step by step. -/
structure RecordField (Partial : Type) where
  name : String
  /-- Read the value of the field, and put it in. -/
  read : JsonReader (Partial → Partial)
  /-- Whether the field was filled already. -/
  given : Partial → Bool

/-- What a record looks like. -/
structure RecordFormat (Partial Record : Type) where
  title : String
  empty : Partial
  fields : List (RecordField Partial)
  /-- The complete record. A field that has no default and was not given is reported on by its place
  and its name. -/
  complete : (absent : Nat → String → Mismatch) → Partial → Except Mismatch Record
  /-- Whether the record may be written as a list. -/
  listed : Bool := true
  /-- What is done with a member that no field is known for. -/
  other : (name : String) → JsonReader (Partial → Partial) := fun _ _ d => do
    JsonReader.here d.skip
    return id
  /-- The name under which such a member is reported on. -/
  otherStep : (name : String) → PathStep := .key

/-- A field of some type, with its place in the partly filled record. -/
def RecordField.of (name : String) (read : JsonReader α) (get : Partial → Option α)
    (set : Partial → α → Partial) : RecordField Partial where
  name := name
  read room d := (fun v p => set p v) <$> read room d
  given p := (get p).isSome

namespace RecordFormat

variable {Partial Record : Type}

/-- A field that has to be given. -/
def require (absent : Nat → String → Mismatch) (place : Nat) (name : String) :
    Option α → Except Mismatch α
  | some v => .ok v
  | none => .error (absent place name)

/-- What is expected where a record should stand. -/
def expected (f : RecordFormat Partial Record) : String := "struct " ++ f.title

/-- What is expected of the length of a list that stands for a record. -/
def expectedLength (f : RecordFormat Partial Record) : String :=
  let n := f.fields.length
  f.expected ++ " with " ++ toString n ++ (if n = 1 then " element" else " elements")

/-! ## As an object -/

/-- Read the members of an object one after another into a partly filled record. -/
def readMembers (f : RecordFormat Partial Record) (room : Nat) :
    Partial → List (Quoted × Draft) → Except ReadError Partial
  | p, [] => .ok p
  | p, (q, d) :: rest => do
    let name ← JsonReader.key q
    match f.fields.find? (·.name = name) with
    | some field =>
      if field.given p then throw (.ofMismatch (.duplicateField name))
      let put ← JsonReader.under (.key name) (field.read room d)
      readMembers f room (put p) rest
    | none =>
      let put ← JsonReader.under (f.otherStep name) (f.other name room d)
      readMembers f room (put p) rest

/-- The error of a member whose colon is missing: its key alone may be one too many. -/
def afterKey (f : RecordFormat Partial Record) (p : Partial) (name : String) (m : Malformed) :
    ReadError :=
  match f.fields.find? (·.name = name) with
  | some field =>
    if field.given p then .ofMismatch (.duplicateField name) else JsonReader.atKey name m
  | none => ⟨[f.otherStep name], .malformed m⟩

/-- The mismatch of a field that is not among the members. -/
def missing (_place : Nat) (name : String) : Mismatch := .missingField name

def readObject (f : RecordFormat Partial Record) (room : Nat) (members : List (Quoted × Draft))
    (ending : ObjectEnd) : Except ReadError Record := do
  let p ← f.readMembers room f.empty members
  JsonReader.objectEnd (f.afterKey p) ending
  (f.complete missing p).mapError .ofMismatch

/-! ## As a list -/

/-- Read the items of a list into the fields in their order. The items that are left over come
back, too; and how many fields were read. -/
def readItems (room : Nat) (place : Nat) :
    Partial → List (RecordField Partial) → List Draft →
      Except ReadError (Partial × Nat × List Draft)
  | p, field :: fields, d :: rest => do
    let put ← JsonReader.under (.index place) (field.read room d)
    readItems room (place + 1) (put p) fields rest
  | p, _, rest => .ok (p, place, rest)

/-- What is wrong with the end of a list whose fields are all there. -/
def fullListEnd : ListEnd → Except Malformed Unit
  | .closed | .cut => .ok ()
  | .endOfInput => .error .endInList
  | .commaThenClose => .error .trailingComma
  | .noComma | .commaThenEnd => .error .trailingCharacters

def readList (f : RecordFormat Partial Record) (room : Nat) (items : List Draft)
    (ending : ListEnd) : Except ReadError Record := do
  let (p, place, rest) ← readItems room 0 f.empty f.fields items
  if place < f.fields.length then
    JsonReader.under (.index place) (JsonReader.here (JsonReader.listEnd ending))
  let r ← (f.complete (fun i _ => .wrongLength i f.expectedLength) p).mapError ReadError.ofMismatch
  if place = f.fields.length then
    JsonReader.here (if rest.isEmpty then fullListEnd ending else .error .trailingCharacters)
  return r

/-! ## In either form -/

/-- The reader of a record. -/
def read (f : RecordFormat Partial Record) : JsonReader Record
  | room, .object members ending => do f.readObject (← JsonReader.enter room) members ending
  | room, .array items ending => do
    if f.listed then f.readList (← JsonReader.enter room) items ending
    else JsonReader.refuse f.expected (.array items ending)
  | _, d => JsonReader.refuse f.expected d

end RecordFormat

end GraphIngest
