import GraphIngest.Config.Settings
import GraphIngest.Http.Exchange
import GraphIngest.Ingest
import GraphIngest.Store.Address

/-!
# The store over HTTP

## Main definitions

* `HttpStore`: a store at a URL.
* `HttpStore.ofUrl`, `HttpStore.connect`: the store at a URL, and the store of some settings once it
  is ready.
* `HttpStore.isReady`, `HttpStore.awaitReady`: asking it whether it is ready, once and repeatedly.
* `HttpStore.answer`: how it answers the calls to a store.
-/

namespace GraphIngest

/-- A store at a URL whose path is a list of segments. -/
structure HttpStore where
  base : Url
  path : Path
  base_path : base.path = .segments path

namespace HttpStore

/-- The store at a URL. Nothing is sent. -/
def ofUrl (url : String) : Except Error HttpStore :=
  match Url.parse url with
  | .error e => .error (.connection ("invalid store url " ++ url ++ ": " ++ e.message))
  | .ok u =>
    match h : u.path with
    | .segments p => .ok ⟨u, p, h⟩
    | .opaqueText _ => .error (.connection ("store url " ++ u.render ++ " cannot be a base"))

/-- The URL of an endpoint of the store. -/
def endpoint (s : HttpStore) (segments : List String) : Url :=
  { s.base with path := .segments (s.path.append s.base.isSpecial segments) }

/-! ## Readiness -/

/-- Ask once whether the store is ready. A request that fails means that it is not. -/
def isReady (s : HttpStore) : HttpDialogue Bool := do
  match ← Request.exchange ⟨.get, s.endpoint readySegments, none⟩ with
  | .ok response => return response.status.isSuccess
  | .error e =>
    Dialogue.event (.checkFailed e.message)
    return false

/-- Ask again and again, with pauses, whether the store is ready; `left` more times after this
one. -/
def pollReady (s : HttpStore) (attempts delay : Nat) : (left : Nat) →
    HttpDialogue (Except Error Nat)
  | 0 => do
    if ← s.isReady then return .ok attempts
    Dialogue.event (.notReady attempts)
    return .error (.notReady attempts)
  | left + 1 => do
    if ← s.isReady then return .ok (attempts - (left + 1))
    Dialogue.event (.retrying delay (attempts - (left + 1)) attempts)
    HttpDialogue.pause delay
    s.pollReady attempts delay left

/-- Ask up to so many times, but at least once, whether the store is ready. The result is how many
times it took. -/
def awaitReady (s : HttpStore) (attempts delay : Nat) : HttpDialogue (Except Error Nat) :=
  s.pollReady (max attempts 1) delay (max attempts 1 - 1)

/-- The store of some settings, once it is ready. -/
def connect (settings : Settings) : HttpDialogue (Except Error HttpStore) := do
  match settings.baseUrl with
  | .error e => return .error e
  | .ok url =>
    Dialogue.event (.connecting url)
    match HttpStore.ofUrl url with
    | .error e => return .error e
    | .ok s =>
      match ← s.awaitReady settings.readyAttempts.toNat (1000 * settings.readyDelay.toNat) with
      | .error e => return .error e
      | .ok _ =>
        Dialogue.event .connected
        return .ok s

/-! ## Calls -/

/-- The text of a body that explains a refusal; a body that broke off explains nothing. -/
def explanation : ResponseBody → String
  | .complete bytes => Symbol.lossy bytes
  | .broken => ""

/-- The results that a body holds. -/
def readResults (objects : List StoreObject) : ResponseBody → Option (List ObjectResult)
  | .broken => none
  | .complete bytes =>
    match ObjectReply.readAll.run bytes with
    | .ok replies => some (ObjectReply.toResults (objects.map (·.id)) replies)
    | .error _ => none

/-- Write objects with one request. -/
def batch (s : HttpStore) (objects : List StoreObject) :
    HttpDialogue (Except Error (List ObjectResult)) := do
  match ← Request.exchange ⟨.post, s.endpoint batchSegments, some (batchBody objects)⟩ with
  | .error e => return .error (.write ("batch request failed: " ++ e.message))
  | .ok response =>
    if response.status.isSuccess then
      match readResults objects response.body with
      | some results => return .ok results
      | none =>
        return .error (.write "unreadable batch response: error decoding response body")
    else
      return .error (.write ("batch rejected with " ++ response.status.shown ++ ": " ++
        explanation response.body))

/-- Add a reference with one request. -/
def reference (s : HttpStore) (source property targetClass target : String) :
    HttpDialogue (Except Error Unit) := do
  let url := s.endpoint (referenceSegments nodeClass source property)
  let body := ReferenceBody.toJson ⟨beacon targetClass target⟩
  match ← Request.exchange ⟨.post, url, some body⟩ with
  | .error e => return .error (.write ("reference request failed: " ++ e.message))
  | .ok response =>
    if response.status.isSuccess then return .ok ()
    else
      return .error (.write ("reference rejected with " ++ response.status.shown ++ ": " ++
        explanation response.body))

/-- How the store answers a call. -/
def answer (s : HttpStore) : (c : StoreCall) → HttpDialogue c.Answer
  | .batch objects => s.batch objects
  | .reference source property targetClass target =>
    s.reference source property targetClass target

/-- Ingest a batch into the store. -/
def ingest (s : HttpStore) (b : Batch Payload) : HttpDialogue (Except Error Summary) :=
  b.ingest.via s.answer

end HttpStore

end GraphIngest
