import GraphIngest.Json.Record

/-!
# Results of a batched write

A batched write is not all or nothing: the store answers with one result for each object.

## Main definitions

* `ObjectResult`: whether the store took an object, and if not, why.
* `ObjectResult.firstRefused?`: the first object that it did not take.
* `ObjectReply`: a result as the store sends it, where most parts may be absent.
-/

namespace GraphIngest

/-- What the store says about one object; no errors mean that it was taken. -/
structure ObjectResult where
  id : String
  errors : List String
  deriving DecidableEq, Repr, Inhabited

namespace ObjectResult

def ok (id : String) : ObjectResult := ⟨id, []⟩

def failed (id message : String) : ObjectResult := ⟨id, [message]⟩

def isOk (r : ObjectResult) : Bool := r.errors.isEmpty

/-- The first object that the store refused. -/
def firstRefused? (results : List ObjectResult) : Option ObjectResult :=
  results.find? (!·.isOk)

end ObjectResult

/-! ## Replies -/

/-- The reader of a message of an error. -/
structure ErrorMessage where
  message : String
  deriving DecidableEq, Repr, Inhabited

structure ErrorMessage.Partial where
  message : Option String := none

def ErrorMessage.format : RecordFormat ErrorMessage.Partial ErrorMessage where
  title := "ErrorMessage"
  empty := {}
  fields := [.of "message" .text (·.message) fun p v => { p with message := some v }]
  complete absent p := do
    return ⟨← RecordFormat.require absent 0 "message" p.message⟩

/-- The errors of an object in the store's words. -/
structure ErrorList where
  errors : List ErrorMessage
  deriving DecidableEq, Repr, Inhabited

structure ErrorList.Partial where
  errors : Option (List ErrorMessage) := none

/-- An absent list is empty. -/
def ErrorList.format : RecordFormat ErrorList.Partial ErrorList where
  title := "ErrorList"
  empty := {}
  fields := [.of "error" (.list ErrorMessage.format.read) (·.errors) fun p v =>
    { p with errors := some v }]
  complete _ p := .ok ⟨p.errors.getD []⟩

/-- What the store says became of an object. -/
structure ReplyBody where
  errors : Option ErrorList
  deriving DecidableEq, Repr, Inhabited

structure ReplyBody.Partial where
  errors : Option (Option ErrorList) := none

def ReplyBody.format : RecordFormat ReplyBody.Partial ReplyBody where
  title := "ObjectResultBody"
  empty := {}
  fields := [.of "errors" (.optional ErrorList.format.read) (·.errors) fun p v =>
    { p with errors := some v }]
  complete _ p := .ok ⟨p.errors.getD none⟩

/-- A result as the store sends it. -/
structure ObjectReply where
  id : Option String
  result : Option ReplyBody
  deriving DecidableEq, Repr, Inhabited

structure ObjectReply.Partial where
  id : Option (Option String) := none
  result : Option (Option ReplyBody) := none

def ObjectReply.format : RecordFormat ObjectReply.Partial ObjectReply where
  title := "BatchObjectResponse"
  empty := {}
  fields := [
    .of "id" (.optional .text) (·.id) fun p v => { p with id := some v },
    .of "result" (.optional ReplyBody.format.read) (·.result) fun p v =>
      { p with result := some v }]
  complete _ p := .ok ⟨p.id.getD none, p.result.getD none⟩

namespace ObjectReply

/-- The messages in a reply; whatever is absent on the way to them means that there are none. -/
def messages (r : ObjectReply) : List String :=
  match r.result with
  | some ⟨some list⟩ => list.errors.map (·.message)
  | _ => []

/-- The result in a reply, for the object of an identity unless the store names another. -/
def toResult (submitted : String) (r : ObjectReply) : ObjectResult :=
  ⟨r.id.getD submitted, r.messages⟩

/-- The results in a list of replies to objects of these identities. A reply to no object is for an
object without a name. -/
def toResults : (submitted : List String) → List ObjectReply → List ObjectResult
  | _, [] => []
  | [], r :: rest => r.toResult "" :: toResults [] rest
  | id :: ids, r :: rest => r.toResult id :: toResults ids rest

@[simp] theorem length_toResults (submitted : List String) (replies : List ObjectReply) :
    (toResults submitted replies).length = replies.length := by
  induction replies generalizing submitted with
  | nil => cases submitted <;> rfl
  | cons r rest ih => cases submitted <;> simp [toResults, ih]

/-- The reader of a whole answer to a batched write. -/
def readAll : JsonReader (List ObjectReply) := .list ObjectReply.format.read

end ObjectReply

end GraphIngest
