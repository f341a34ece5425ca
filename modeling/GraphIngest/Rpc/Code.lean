import GraphIngest.Json.Record

/-!
# Status codes of the service

## Main definitions

* `RpcCode`: what kind of failure a caller is told about.
* `RpcCode.httpStatus`: the status of the answer that carries it.
* `RpcCode.read`: a code is written as its name, or as an object whose only member has that name.
-/

namespace GraphIngest

inductive RpcCode where
  | invalidArgument
  | internal
  | unimplemented
  deriving DecidableEq, Repr, Inhabited

namespace RpcCode

def name : RpcCode → String
  | invalidArgument => "invalid_argument"
  | internal => "internal"
  | unimplemented => "unimplemented"

def httpStatus : RpcCode → Nat
  | invalidArgument => 400
  | internal => 500
  | unimplemented => 501

def all : List RpcCode := [invalidArgument, internal, unimplemented]

def toJson (c : RpcCode) : Json := .text c.name

/-- The code of a name. -/
def ofName (name : String) : Except ReadError RpcCode :=
  match all.find? (·.name = name) with
  | some c => .ok c
  | none => .error (.ofMismatch (.unknownVariant name (all.map RpcCode.name)))

/-- The code of a quoted name. -/
def ofQuoted (q : Quoted) : Except ReadError RpcCode := do ofName (← JsonReader.here q.read)

/-- What is wrong with an object that has no member. -/
def readName : ObjectEnd → Except ReadError RpcCode
  | .endOfInput => .error (.ofMalformed .endInObject)
  | .noKey => .error (.ofMalformed .keyNotText)
  | .brokenKey q => ofQuoted q
  | .keyThenEnd q => do
    let _ ← ofQuoted q
    throw (.ofMalformed .endInObject)
  | .keyThenOther q => do
    let _ ← ofQuoted q
    throw (.ofMalformed .expectedColon)
  | .closed | .noComma | .commaThenClose | .commaThenEnd | .cut =>
    .error (.ofMalformed .expectedValue)

/-- Null stands for the absent content of a code. -/
def readContent : Draft → Except ReadError Unit
  | .null => .ok ()
  | d => JsonReader.refuse "unit" d

/-- What is wrong after the only member of an object. -/
def memberEnd (rest : List (Quoted × Draft)) (ending : ObjectEnd) : Except Malformed Unit :=
  if rest.isEmpty then
    match ending with
    | .closed | .cut => .ok ()
    | .endOfInput => .error .endInObject
    | _ => .error .expectedValue
  else .error .expectedValue

/-- The reader of codes. -/
def read : JsonReader RpcCode
  | _, .text q => ofQuoted q
  | room, .object [] ending => do
    let _ ← JsonReader.enter room
    readName ending
  | room, .object ((q, d) :: rest) ending => do
    let _ ← JsonReader.enter room
    let c ← ofQuoted q
    readContent d
    JsonReader.here (memberEnd rest ending)
    return c
  | _, .missing => .error (.ofMalformed .endInValue)
  | _, .null | _, .bool _ | _, .number _ | _, .array _ _ | _, .broken _ _ =>
    .error (.ofMalformed .expectedValue)

end RpcCode

end GraphIngest
