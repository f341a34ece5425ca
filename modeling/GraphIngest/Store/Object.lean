import GraphIngest.Graph.Json

/-!
# Store objects

The store holds every node as an object of one class. The scalar parts of a node are properties of
fixed names; its annotations are one text.

## Main definitions

* `Properties`: the properties of a stored node.
* `StoreObject`: an object with its class and its identity.
-/

namespace GraphIngest

/-- The class of all stored nodes. -/
def nodeClass : String := "ASTNode"

/-- The properties of a stored node. -/
structure Properties where
  nodeType : String
  span : Span
  snippet : String
  filePath : String
  revision : String
  name : String
  annotations : Option String
  deriving DecidableEq, Repr, Inhabited

structure StoreObject where
  className : String
  id : String
  properties : Properties
  deriving DecidableEq, Repr, Inhabited

namespace Properties

structure Partial where
  nodeType : Option String := none
  span : Span.Partial := {}
  snippet : Option String := none
  filePath : Option String := none
  revision : Option String := none
  name : Option String := none
  annotations : Option (Option String) := none

/-- All properties but the annotations have to be given. -/
def Partial.complete (absent : Nat → String → Mismatch) (p : Partial) :
    Except Mismatch Properties := do
  return {
    nodeType := ← RecordFormat.require absent 0 "nodeType" p.nodeType
    span := {
      startByte := ← RecordFormat.require absent 1 "startByte" p.span.startByte
      endByte := ← RecordFormat.require absent 2 "endByte" p.span.endByte
      startLine := ← RecordFormat.require absent 3 "startLine" p.span.startLine
      endLine := ← RecordFormat.require absent 4 "endLine" p.span.endLine }
    snippet := ← RecordFormat.require absent 5 "sourceCodeSnippet" p.snippet
    filePath := ← RecordFormat.require absent 6 "filePath" p.filePath
    revision := ← RecordFormat.require absent 7 "gitCommitHash" p.revision
    name := ← RecordFormat.require absent 8 "name" p.name
    annotations := p.annotations.getD none }

def format : RecordFormat Partial Properties where
  title := "AstNodeProperties"
  empty := {}
  fields := [
    .of "nodeType" .text (·.nodeType) fun p v => { p with nodeType := some v },
    .of "startByte" .int32 (·.span.startByte) fun p v => { p with span.startByte := some v },
    .of "endByte" .int32 (·.span.endByte) fun p v => { p with span.endByte := some v },
    .of "startLine" .int32 (·.span.startLine) fun p v => { p with span.startLine := some v },
    .of "endLine" .int32 (·.span.endLine) fun p v => { p with span.endLine := some v },
    .of "sourceCodeSnippet" .text (·.snippet) fun p v => { p with snippet := some v },
    .of "filePath" .text (·.filePath) fun p v => { p with filePath := some v },
    .of "gitCommitHash" .text (·.revision) fun p v => { p with revision := some v },
    .of "name" .text (·.name) fun p v => { p with name := some v },
    .of "annotations" (.optional .text) (·.annotations) fun p v => { p with annotations := some v }]
  complete := Partial.complete

def toJson (p : Properties) : Json :=
  .object ([("nodeType", .text p.nodeType)] ++ p.span.members ++
    [("sourceCodeSnippet", .text p.snippet), ("filePath", .text p.filePath),
      ("gitCommitHash", .text p.revision), ("name", .text p.name)] ++
    p.annotations.toList.map fun s => ("annotations", .text s))

end Properties

namespace StoreObject

structure Partial where
  className : Option String := none
  id : Option String := none
  properties : Option Properties := none

def format : RecordFormat Partial StoreObject where
  title := "StoreObject"
  empty := {}
  fields := [
    .of "class" .text (·.className) fun p v => { p with className := some v },
    .of "id" .text (·.id) fun p v => { p with id := some v },
    .of "properties" Properties.format.read (·.properties) fun p v =>
      { p with properties := some v }]
  complete absent p := do
    return {
      className := ← RecordFormat.require absent 0 "class" p.className
      id := ← RecordFormat.require absent 1 "id" p.id
      properties := ← RecordFormat.require absent 2 "properties" p.properties }

def toJson (o : StoreObject) : Json := .object [
  ("class", .text o.className),
  ("id", .text o.id),
  ("properties", o.properties.toJson)]

end StoreObject

end GraphIngest
