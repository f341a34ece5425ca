import GraphIngest.Store.Call

/-!
# Ingesting a batch

A batch is written in two phases: all nodes in one call, then the relationships one by one. Each
phase stops at its first failure, and nothing that was written is taken back.

## Main definitions

* `Summary`: what was ingested.
* `Batch.ingest`: the work of ingesting a batch.
-/

namespace GraphIngest

/-- What was ingested. -/
structure Summary where
  message : String
  nodeIds : List String
  relationshipsCreated : Nat
  deriving DecidableEq, Repr, Inhabited

namespace Summary

/-- The summary of a batch that holds nothing to write. -/
def nothing : Summary := ⟨"No nodes to ingest", [], 0⟩

/-- The summary of a batch all of which was written. -/
def all (b : Batch A) : Summary where
  message := "Successfully ingested " ++ toString b.nodes.length ++ " nodes and " ++
    toString b.relationships.length ++ " relationships."
  nodeIds := b.nodeIds
  relationshipsCreated := b.relationships.length

def toJson (s : Summary) : Json := .object [
  ("message", .text s.message),
  ("ingestedNodeIds", .texts s.nodeIds),
  ("relationshipsCreated", .nat s.relationshipsCreated)]

end Summary

namespace Batch

/-- Write all objects in one call. The call has to succeed, no object may be refused, and there has
to be a result for each of them. -/
def writeObjects (objects : List StoreObject) : StoreDialogue (Except Error Unit) := do
  match ← StoreDialogue.batch objects with
  | .error e =>
    Dialogue.event (.batchFailed e)
    return .error (.nodeWrite e.message)
  | .ok results =>
    match ObjectResult.firstRefused? results with
    | some r =>
      let reason := "; ".intercalate r.errors
      Dialogue.event (.refused r.id reason)
      return .error (.nodeWrite ("object " ++ r.id ++ ": " ++ reason))
    | none =>
      if results.length = objects.length then return .ok ()
      else
        return .error (.nodeWrite ("store acknowledged " ++ toString results.length ++ " of " ++
          toString objects.length ++ " objects"))

/-- Create relationships one after another, up to the first that fails. -/
def createReferences : List Relationship → StoreDialogue (Except Error Unit)
  | [] => return .ok ()
  | r :: rest => do
    match ← StoreDialogue.create r with
    | .ok () => createReferences rest
    | .error e =>
      Dialogue.event (.relationshipFailed r e)
      return .error (.referenceWrite r.shown e.message)

/-- Write the nodes, and then the relationships. -/
def writeAll (b : Batch Payload) : StoreDialogue (Except Error Unit) := do
  match ← writeObjects b.objects with
  | .error e => return .error e
  | .ok () => createReferences b.relationships

/-- Ingest a batch. -/
def ingest (b : Batch Payload) : StoreDialogue (Except Error Summary) := do
  Dialogue.event (.received b.nodes.length b.relationships.length)
  if b.isEmpty then return .ok .nothing
  Dialogue.events (b.omissions.map .omitted)
  match ← b.writeAll with
  | .error e => return .error e
  | .ok () =>
    Dialogue.event (.ingested b.nodes.length b.relationships.length)
    return .ok (.all b)

end Batch

end GraphIngest
