import GraphIngest.Json.Record

/-!
# Addresses in the store

Requests to the store name an endpoint by the segments of its path, and an object by its beacon.

## Main definitions

* `readySegments`, `batchSegments`, `referenceSegments`: the endpoints.
* `beacon`: how a reference names the object that it points to.
* `ReferenceBody`: the body of a request that adds a reference.
-/

namespace GraphIngest

/-- The endpoint that answers with success once the store accepts requests. -/
def readySegments : List String := ["v1", ".well-known", "ready"]

/-- The endpoint that takes many objects at once. -/
def batchSegments : List String := ["v1", "batch", "objects"]

/-- The endpoint that adds a reference to a property of an object. -/
def referenceSegments (className id property : String) : List String :=
  ["v1", "objects", className, id, "references", property]

/-- The name of an object as the target of a reference. -/
def beacon (className id : String) : String :=
  "weaviate://localhost/" ++ className ++ "/" ++ id

/-- The body of a request that adds a reference. -/
structure ReferenceBody where
  beacon : String
  deriving DecidableEq, Repr, Inhabited

namespace ReferenceBody

structure Partial where
  beacon : Option String := none

def format : RecordFormat Partial ReferenceBody where
  title := "ReferencePayload"
  empty := {}
  fields := [.of "beacon" .text (·.beacon) fun p v => { p with beacon := some v }]
  complete absent p := do
    return ⟨← RecordFormat.require absent 0 "beacon" p.beacon⟩

def toJson (b : ReferenceBody) : Json := .object [("beacon", .text b.beacon)]

end ReferenceBody

end GraphIngest
