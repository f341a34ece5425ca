import GraphIngest.Graph.Json
import GraphIngest.Rpc.Code

/-!
# Messages of the service

## Main definitions

* `IngestRequest`: the nodes and relationships that a caller wants ingested.
* `IngestReply`: the answer when all of them were.
* `ErrorReply`: the answer otherwise.
-/

namespace GraphIngest

/-- A request to ingest a batch whose annotations are arbitrary values. -/
abbrev IngestRequest := Batch Json

namespace IngestRequest

structure Partial where
  nodes : Option (List (Node Json)) := none
  relationships : Option (List Relationship) := none

/-- Either list may be left out. -/
def format : RecordFormat Partial IngestRequest where
  title := "IngestAstRequest"
  empty := {}
  fields := [
    .of "astNodes" (.list Node.read) (·.nodes) fun p v => { p with nodes := some v },
    .of "relationships" (.list Relationship.format.read) (·.relationships) fun p v =>
      { p with relationships := some v }]
  complete _ p := .ok ⟨p.nodes.getD [], p.relationships.getD []⟩

def toJson (r : IngestRequest) : Json := .object [
  ("astNodes", .array (r.nodes.map Node.toJson)),
  ("relationships", .array (r.relationships.map Relationship.toJson))]

end IngestRequest

/-- The answer to a request whose nodes and relationships were all ingested. -/
structure IngestReply where
  success : Bool
  message : String
  nodeIds : List String
  deriving DecidableEq, Repr, Inhabited

namespace IngestReply

structure Partial where
  success : Option Bool := none
  message : Option String := none
  nodeIds : Option (List String) := none

def format : RecordFormat Partial IngestReply where
  title := "IngestAstResponse"
  empty := {}
  fields := [
    .of "success" .bool (·.success) fun p v => { p with success := some v },
    .of "message" .text (·.message) fun p v => { p with message := some v },
    .of "ingestedNodeIds" (.list .text) (·.nodeIds) fun p v => { p with nodeIds := some v }]
  complete absent p := do
    return {
      success := ← RecordFormat.require absent 0 "success" p.success
      message := ← RecordFormat.require absent 1 "message" p.message
      nodeIds := ← RecordFormat.require absent 2 "ingestedNodeIds" p.nodeIds }

def toJson (r : IngestReply) : Json := .object [
  ("success", .bool r.success),
  ("message", .text r.message),
  ("ingestedNodeIds", .texts r.nodeIds)]

end IngestReply

/-- The answer to a request that failed. -/
structure ErrorReply where
  code : RpcCode
  message : String
  deriving DecidableEq, Repr, Inhabited

namespace ErrorReply

structure Partial where
  code : Option RpcCode := none
  message : Option String := none

def format : RecordFormat Partial ErrorReply where
  title := "ErrorResponse"
  empty := {}
  fields := [
    .of "code" RpcCode.read (·.code) fun p v => { p with code := some v },
    .of "message" .text (·.message) fun p v => { p with message := some v }]
  complete absent p := do
    return {
      code := ← RecordFormat.require absent 0 "code" p.code
      message := ← RecordFormat.require absent 1 "message" p.message }

def toJson (r : ErrorReply) : Json := .object [
  ("code", r.code.toJson),
  ("message", .text r.message)]

end ErrorReply

end GraphIngest
