import GraphIngest.Http.Message
import GraphIngest.Text.Blank
import GraphIngest.Text.Digit

/-!
# Messages on the wire

A request is written with its length. A response ends where its length says, after its last chunk,
or with the connection.

## Main definitions

* `Request.wire`: the text of a request.
* `Framing`: how a response says where it ends.
* `Response.ofWire?`: the response in the bytes that came so far.
-/

namespace GraphIngest

/-! ## Requests -/

namespace Request

/-- What a request asks the host for. -/
def target (r : Request) : String :=
  String.ofList (r.url.pathText ++ Url.marked '?' r.url.query)

/-- The host that a request names, with its port. -/
def hostText (r : Request) : String :=
  String.ofList (((r.url.host.map Host.render).getD []) ++ r.url.portText)

def headerLine (name value : String) : String := name ++ ": " ++ value ++ "\r\n"

/-- What follows the lines that all requests have. -/
def bodyText : Option Json → String
  | none => "\r\n"
  | some body =>
    headerLine "Content-Type" "application/json" ++
      headerLine "Content-Length" (toString body.render.utf8ByteSize) ++ "\r\n" ++ body.render

/-- The text of a request. The connection is not used again. -/
def wire (r : Request) : String :=
  r.method.name ++ " " ++ r.target ++ " HTTP/1.1\r\n" ++ headerLine "Host" r.hostText ++
    headerLine "Accept" "*/*" ++ headerLine "Connection" "close" ++ bodyText r.body

end Request

/-! ## Responses -/

/-- How a response says where it ends. -/
inductive Framing where
  | length (bytes : Nat)
  | chunked
  /-- With the connection. -/
  | untilClosed
  deriving DecidableEq, Repr, Inhabited

namespace Response

/-- The bytes before the first empty line and the bytes after it. -/
def splitHead : List UInt8 → Option (List UInt8 × List UInt8)
  | 13 :: 10 :: 13 :: 10 :: rest => some ([], rest)
  | b :: rest => (splitHead rest).map fun r => (b :: r.1, r.2)
  | [] => none

/-- The bytes before the first end of a line and the bytes after it. -/
def splitLine : List UInt8 → Option (List UInt8 × List UInt8)
  | 13 :: 10 :: rest => some ([], rest)
  | b :: rest => (splitLine rest).map fun r => (b :: r.1, r.2)
  | [] => none

/-- One character for each byte. -/
def charsOf (bytes : List UInt8) : List Char := bytes.map fun b => Char.ofNat b.toNat

/-- The name and the value of a header. Names are in lower case. -/
def header (line : String) : String × String :=
  let cs := line.toList
  (String.ofList (Blank.trimLine ((cs.takeWhile (· ≠ ':')).map Char.toLower)),
    String.ofList (Blank.trimLine ((cs.dropWhile (· ≠ ':')).drop 1)))

/-- The status in the first line of a head. -/
def statusOf? (line : String) : Option Status := do
  let digits := ((line.toList.dropWhile (· ≠ ' ')).drop 1).takeWhile Char.isDigit
  if digits.length = 3 then some ⟨Digit.natOf digits⟩ else none

/-- How a response with some headers ends. Chunks count more than a length. -/
def framing (status : Status) (headers : List (String × String)) : Framing :=
  if status.code < 200 ∨ status.code = 204 ∨ status.code = 304 then .length 0
  else if (headers.lookup "transfer-encoding").any (·.toList.map Char.toLower = "chunked".toList)
  then .chunked
  else
    match headers.lookup "content-length" with
    | some n => .length (Digit.natOf (n.toList.takeWhile Char.isDigit))
    | none => .untilClosed

/-- The bytes in chunks, if the last chunk came. A chunk begins with its length; the last one is
empty. -/
def chunks? : (greatest : Nat) → List UInt8 → Option (List UInt8)
  | 0, _ => none
  | greatest + 1, bytes => do
    let (line, rest) ← splitLine bytes
    let digits := (charsOf line).takeWhile fun c => (Digit.value? c).isSome
    if digits.isEmpty then none
    let n ← Digit.natOf? 16 digits
    if n = 0 then return []
    if rest.length < n + 2 then none
    return rest.take n ++ (← chunks? greatest (rest.drop (n + 2)))

/-- The body in the bytes after a head. -/
def bodyOf (closed : Bool) (bytes : List UInt8) : Framing → ResponseBody
  | .length n => if n ≤ bytes.length then complete (bytes.take n) else .broken
  | .chunked => ((chunks? (bytes.length + 1) bytes).map complete).getD .broken
  | .untilClosed => if closed then complete bytes else .broken
where
  complete (bytes : List UInt8) : ResponseBody := .complete (Symbol.ofBytes bytes)

/-- The response in the bytes that came so far, as soon as its head is there. Its body is broken
while it is not complete. -/
def ofWire? (closed : Bool) (bytes : List UInt8) : Option Response := do
  let (head, rest) ← splitHead bytes
  let lines := (String.ofList (charsOf head)).splitOn "\r\n"
  let status ← statusOf? (← lines.head?)
  let headers := lines.tail.map header
  return ⟨status, headers.lookup "location", bodyOf closed rest (framing status headers)⟩

end Response

end GraphIngest
