import GraphIngest.Payload
import GraphIngest.Store.Object

/-!
# Nodes as store objects

## Main definitions

* `Node.rendition`: the object of a node. Annotations that cannot be written are left out, and that
  is told; they never stand in the way of the object.
* `batchBody`: the body of a request that writes objects.
-/

namespace GraphIngest

/-- Annotations were left out of an object. -/
structure Omission where
  nodeId : String
  reason : String
  deriving DecidableEq, Repr, Inhabited

def Omission.message (o : Omission) : String :=
  "annotations of node " ++ o.nodeId ++ " omitted: " ++ o.reason

/-- The object of a node, and what was left out of it. -/
structure Rendition where
  object : StoreObject
  omission : Option Omission
  deriving DecidableEq, Repr, Inhabited

namespace Node

/-- The object of a node with these annotations. -/
def toObject (n : Node A) (annotations : Option String) : StoreObject where
  className := nodeClass
  id := n.id
  properties := {
    nodeType := n.nodeType
    span := n.span
    snippet := n.snippet
    filePath := n.filePath
    revision := n.revision
    name := n.name
    annotations := annotations }

/-- The object of a node. -/
def rendition (n : Node Payload) : Rendition :=
  match n.annotations with
  | none => ⟨n.toObject none, none⟩
  | some p =>
    match p.render with
    | .ok text => ⟨n.toObject (some text), none⟩
    | .error reason => ⟨n.toObject none, some ⟨n.id, reason⟩⟩

@[simp] theorem id_rendition (n : Node Payload) : n.rendition.object.id = n.id := by
  unfold rendition
  split
  · rfl
  · split <;> rfl

/-- Annotations that are arbitrary values are kept as their texts. -/
theorem object_json (n : Node Json) : (n.mapAnnotations .json).rendition.object =
    n.toObject (n.annotations.map Json.render) := by
  unfold rendition mapAnnotations
  cases n.annotations <;> rfl

end Node

namespace Batch

/-- The renditions of the nodes in their order. -/
def renditions (b : Batch Payload) : List Rendition := b.nodes.map Node.rendition

/-- The objects of the nodes in their order. -/
def objects (b : Batch Payload) : List StoreObject := b.renditions.map (·.object)

@[simp] theorem length_objects (b : Batch Payload) : b.objects.length = b.nodes.length := by
  simp [objects, renditions]

/-- Objects keep the identities of their nodes. -/
theorem map_id_objects (b : Batch Payload) : b.objects.map (·.id) = b.nodeIds := by
  simp [objects, renditions, nodeIds, Function.comp_def]

/-- What was left out, in the order of the nodes. -/
def omissions (b : Batch Payload) : List Omission := b.renditions.filterMap (·.omission)

/-- The same batch, its annotations being arbitrary values. -/
def ofJson (b : Batch Json) : Batch Payload :=
  ⟨b.nodes.map (Node.mapAnnotations .json), b.relationships⟩

theorem objects_ofJson (b : Batch Json) :
    (ofJson b).objects = b.nodes.map fun n => n.toObject (n.annotations.map Json.render) := by
  simp [objects, renditions, ofJson, Function.comp_def, Node.object_json]

end Batch

/-- The body of a request that writes objects. -/
def batchBody (objects : List StoreObject) : Json :=
  .object [("objects", .array (objects.map StoreObject.toJson))]

end GraphIngest
