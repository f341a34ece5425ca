import GraphIngest.Http.Message

/-!
# Exchanges

An exchange sends a request and follows redirects until a response is the last.

## Main definitions

* `TransportError`: why an exchange ended without a response.
* `Response.redirect?`: the request that a response asks for instead of the one it answers.
* `Request.exchange`: the work of an exchange.
-/

namespace GraphIngest

/-- Why an exchange ended without a response. The URL is the one at which it ended. -/
inductive TransportError where
  /-- Nothing can be sent to the URL. -/
  | unsendable (url : Url)
  | undelivered (url : Url)
  | tooManyRedirects (url : Url)
  deriving DecidableEq, Repr, Inhabited

def TransportError.message : TransportError → String
  | unsendable url => "builder error for url (" ++ url.render ++ ")"
  | undelivered url => "error sending request for url (" ++ url.render ++ ")"
  | tooManyRedirects url => "error following redirect for url (" ++ url.render ++ ")"

namespace Url

/-- Characters of a domain that no request line holds. -/
def isUnsendable (c : Char) : Bool := c = '"' || c.toNat = 0x60 || c = '\x7b' || c = '\x7d'

/-- Whether a URL may stand in a request line. -/
def isWritable (u : Url) : Bool :=
  (u.host.map Host.render).all (!·.any isUnsendable) && u.chars.length < 65535

/-- Whether requests can be made for a URL: they are made over HTTP only. -/
def isSendable (u : Url) : Bool :=
  (u.scheme = "http".toList || u.scheme = "https".toList) && u.isWritable

/-- Whether a URL can be reached: connections are never encrypted. -/
def isReachable (u : Url) : Bool := u.scheme = "http".toList

end Url

/-- Where a response leads, if it is a redirect to a URL that can be written. -/
def Response.target? (r : Response) (url : Url) : Option Url := do
  if ¬[301, 302, 303, 307, 308].contains r.status.code then none
  match url.join (← r.location) with
  | .ok target => if target.isWritable then some target else none
  | .error _ => none

/-- The request that a response asks for instead of the one it answers. Some redirects turn every
request into one that only asks; the others repeat it. -/
def Response.redirect? (r : Response) (request : Request) : Option Request :=
  (r.target? request.url).map fun url =>
    if [301, 302, 303].contains r.status.code then ⟨.get, url, none⟩ else { request with url }

namespace Request

/-- Send one request. -/
def deliver (r : Request) : HttpDialogue (Except TransportError Response) :=
  if !r.url.isSendable then return .error (.unsendable r.url)
  else if !r.url.isReachable then return .error (.undelivered r.url)
  else do
    match ← HttpDialogue.send r with
    | .undelivered => return .error (.undelivered r.url)
    | .response response => return .ok response

/-- Send a request and follow so many redirects. -/
def follow (r : Request) : (redirects : Nat) → HttpDialogue (Except TransportError Response)
  | 0 => do
    match ← r.deliver with
    | .error e => return .error e
    | .ok response =>
      match response.redirect? r with
      | none => return .ok response
      | some _ => return .error (.tooManyRedirects r.url)
  | redirects + 1 => do
    match ← r.deliver with
    | .error e => return .error e
    | .ok response =>
      match response.redirect? r with
      | none => return .ok response
      | some next => follow next redirects

/-- How many redirects are followed. -/
def greatestRedirects : Nat := 10

/-- Send a request and follow redirects. What the URL says about a user is not part of it. -/
def exchange (r : Request) : HttpDialogue (Except TransportError Response) :=
  { r with url := r.url.withoutUser }.follow greatestRedirects

end Request

end GraphIngest
