import GraphIngest.Json.Value

/-!
# Annotation payloads

A payload describes itself part by part to whoever writes it down. It may have parts that JSON has
no form for, and it may refuse.

## Main definitions

* `Payload`: a value that describes itself.
* `Payload.toJson`: its JSON form, or why it has none. The first part that has none decides.
-/

namespace GraphIngest

/-- A value that describes itself. -/
inductive Payload where
  | json (value : Json)
  /-- A part that refuses, for a reason. -/
  | refusal (reason : String)
  | number (value : JsonNumber)
  /-- A floating-point number that is infinite or none. -/
  | notFinite
  | char (value : Char)
  | bytes (values : List Nat)
  | absent
  /-- A value that may be absent, and is not. -/
  | present (value : Payload)
  /-- A case without content. -/
  | name (name : String)
  /-- A case with content. -/
  | tagged (name : String) (content : Payload)
  | list (items : List Payload)
  | map (entries : List (Payload × Payload))
  deriving Repr, Inhabited

namespace Payload

def keyNotText : String := "key must be a string"

def keyNotFinite : String := "float key must be finite (got NaN or +/-inf)"

/-- The text that a JSON value is as a key. -/
def jsonKey : Json → Except String String
  | .text s => .ok s
  | .number n => .ok n.render
  | .bool b => .ok (toString b)
  | .null | .array _ | .object _ => .error keyNotText

/-- The text that a payload is as a key. -/
def key : Payload → Except String String
  | json v => jsonKey v
  | refusal reason => .error reason
  | number n => .ok n.render
  | notFinite => .error keyNotFinite
  | char c => .ok (String.singleton c)
  | present p => key p
  | name s => .ok s
  | bytes _ | absent | tagged _ _ | list _ | map _ => .error keyNotText

mutual

/-- The JSON form of a payload. -/
def toJson : Payload → Except String Json
  | json v => .ok v
  | refusal reason => .error reason
  | number n => .ok (.number n)
  | notFinite => .ok .null
  | char c => .ok (.text (String.singleton c))
  | bytes values => .ok (.array (values.map .nat))
  | absent => .ok .null
  | present p => toJson p
  | name s => .ok (.text s)
  | tagged s p => do
    let v ← toJson p
    return .object [(s, v)]
  | list items => do
    let vs ← itemsToJson items
    return .array vs
  | map entries => do
    let ms ← entriesToJson entries
    return .object ms

def itemsToJson : List Payload → Except String (List Json)
  | [] => .ok []
  | p :: rest => do
    let v ← toJson p
    let vs ← itemsToJson rest
    return v :: vs

/-- Keys are looked at before their values. Equal keys are all kept, in their order. -/
def entriesToJson : List (Payload × Payload) → Except String (List (String × Json))
  | [] => .ok []
  | (k, p) :: rest => do
    let s ← key k
    let v ← toJson p
    let ms ← entriesToJson rest
    return (s, v) :: ms

end

/-- The compact text of a payload. -/
def render (p : Payload) : Except String String := Json.render <$> p.toJson

end Payload

end GraphIngest
