import GraphIngest.Dialogue
import GraphIngest.Event
import GraphIngest.Http.Status
import GraphIngest.Url.Reader

/-!
# Requests and replies

## Main definitions

* `Request`: what is sent to a URL.
* `Reply`: what comes back, if anything does.
* `HttpDialogue`: work that sends requests and waits.
-/

namespace GraphIngest

inductive Method where
  | get
  | post
  deriving DecidableEq, Repr, Inhabited

def Method.name : Method → String
  | get => "GET"
  | post => "POST"

/-- What is sent to a URL. A body is JSON. -/
structure Request where
  method : Method
  url : Url
  body : Option Json
  deriving Repr, Inhabited

/-- The body of a response. -/
inductive ResponseBody where
  | complete (bytes : List Symbol)
  /-- It broke off, or did not come in time. -/
  | broken
  deriving DecidableEq, Repr, Inhabited

structure Response where
  status : Status
  location : Option String
  body : ResponseBody
  deriving DecidableEq, Repr, Inhabited

/-- What comes back from a peer. -/
inductive Reply where
  /-- No response began in time, or at all. -/
  | undelivered
  | response (response : Response)
  deriving DecidableEq, Repr, Inhabited

/-- What work over HTTP asks of the world. -/
inductive HttpCall where
  | send (request : Request)
  | pause (millis : Nat)
  deriving Repr, Inhabited

abbrev HttpCall.Answer : HttpCall → Type
  | send _ => Reply
  | pause _ => Unit

/-- Work that sends requests, waits, and tells events. -/
abbrev HttpDialogue := Dialogue HttpCall HttpCall.Answer Event

namespace HttpDialogue

def send (r : Request) : HttpDialogue Reply := Dialogue.question (HttpCall.send r)

def pause (millis : Nat) : HttpDialogue Unit := Dialogue.question (HttpCall.pause millis)

end HttpDialogue

end GraphIngest
