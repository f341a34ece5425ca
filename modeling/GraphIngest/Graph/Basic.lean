/-!
# Syntax graphs

A graph is built from the nodes of a syntax tree and directed, labelled relationships between them.
Nodes come with their identity; it is never changed.

## Main definitions

* `Span`: where a node stands in its file.
* `Node`: a node with annotations of some type.
* `Relationship`: an edge between two nodes; `Relationship.shown` is how messages name it.
* `Batch`: nodes and relationships that are ingested together.
-/

namespace GraphIngest

/-- First and last byte and line of a node in its file. -/
structure Span where
  startByte : Int32 := 0
  endByte : Int32 := 0
  startLine : Int32 := 0
  endLine : Int32 := 0
  deriving DecidableEq, Repr, Inhabited

/-- A node of a syntax tree. The annotations are of any type; the graph does not depend on them. -/
structure Node (Annotations : Type) where
  id : String
  nodeType : String
  span : Span
  snippet : String
  filePath : String
  revision : String
  name : String
  annotations : Option Annotations
  deriving DecidableEq, Repr, Inhabited

namespace Node

/-- A node with an identity and a type; all else is empty. -/
def new (id nodeType : String) : Node Annotations where
  id := id
  nodeType := nodeType
  span := {}
  snippet := ""
  filePath := ""
  revision := ""
  name := ""
  annotations := none

def withSpan (n : Node A) (span : Span) : Node A := { n with span }

def withSnippet (n : Node A) (snippet : String) : Node A := { n with snippet }

/-- Set the file a node comes from, and the revision at which it was read. -/
def withOrigin (n : Node A) (filePath revision : String) : Node A :=
  { n with filePath, revision }

def withName (n : Node A) (name : String) : Node A := { n with name }

/-- Set the annotations, possibly to ones of another type. -/
def withAnnotations (n : Node A) (annotations : B) : Node B :=
  { n with annotations := some annotations }

/-- Change the annotations. -/
def mapAnnotations (f : A → B) (n : Node A) : Node B :=
  { n with annotations := n.annotations.map f }

end Node

/-- A directed edge from one node to another. Its type is the name of the property that holds the
reference. -/
structure Relationship where
  source : String
  target : String
  type : String
  deriving DecidableEq, Repr, Inhabited

/-- How messages name a relationship. -/
def Relationship.shown (r : Relationship) : String :=
  r.source ++ " -[" ++ r.type ++ "]-> " ++ r.target

/-- What is ingested together: nodes first, then the relationships between them. -/
structure Batch (Annotations : Type) where
  nodes : List (Node Annotations)
  relationships : List Relationship
  deriving DecidableEq, Repr, Inhabited

namespace Batch

/-- A batch without nodes holds nothing to write, whatever its relationships are. -/
def isEmpty (b : Batch A) : Bool := b.nodes.isEmpty

/-- The identities of the nodes in their order. -/
def nodeIds (b : Batch A) : List String := b.nodes.map (·.id)

end Batch

end GraphIngest
