import GraphIngest.Graph.Basic
import GraphIngest.Json.Record

/-!
# Graphs as JSON

## Main definitions

* `Span.format`, `Span.toJson`: spans.
* `Node.read`, `Node.toJson`: nodes whose annotations are arbitrary values. The members of the span
  stand among those of the node.
* `Relationship.format`, `Relationship.toJson`: relationships.
-/

namespace GraphIngest

/-! ## Thirty-two bit integers -/

def JsonReader.int32 : JsonReader Int32 :=
  fun room d => Int32.ofInt <$> JsonReader.int (-2147483648) 2147483647 "i32" room d

def Json.int32 (n : Int32) : Json := .int n.toInt

/-! ## Spans -/

namespace Span

/-- A span of which some parts are given. -/
structure Partial where
  startByte : Option Int32 := none
  endByte : Option Int32 := none
  startLine : Option Int32 := none
  endLine : Option Int32 := none

/-- Parts that are not given are zero. -/
def Partial.complete (p : Partial) : Span where
  startByte := p.startByte.getD 0
  endByte := p.endByte.getD 0
  startLine := p.startLine.getD 0
  endLine := p.endLine.getD 0

def format : RecordFormat Partial Span where
  title := "Span"
  empty := {}
  fields := [
    .of "startByte" .int32 (·.startByte) fun p v => { p with startByte := some v },
    .of "endByte" .int32 (·.endByte) fun p v => { p with endByte := some v },
    .of "startLine" .int32 (·.startLine) fun p v => { p with startLine := some v },
    .of "endLine" .int32 (·.endLine) fun p v => { p with endLine := some v }]
  complete _ p := .ok p.complete

def members (s : Span) : List (String × Json) := [
  ("startByte", .int32 s.startByte),
  ("endByte", .int32 s.endByte),
  ("startLine", .int32 s.startLine),
  ("endLine", .int32 s.endLine)]

def toJson (s : Span) : Json := .object s.members

/-- The integer that a part of a span is, if it is one. -/
def part (v : Json) : Except Mismatch Int32 :=
  let refuse (found : Found) : Except Mismatch Int32 := .error (.wrongType found "i32")
  match v with
  | .number (.int n) =>
    if -2147483648 ≤ n ∧ n ≤ 2147483647 then .ok (Int32.ofInt n)
    else .error (.wrongValue (.int n) "i32")
  | .number x => refuse (JsonReader.foundNumber x)
  | .null => refuse .null
  | .bool b => refuse (.bool b)
  | .text s => refuse (.text s)
  | .array _ => refuse .sequence
  | .object _ => refuse .map

/-- Put a part in, unless it was given before. -/
def setPart (name : String) (get : Partial → Option Int32) (set : Partial → Int32 → Partial)
    (p : Partial) (v : Json) : Except Mismatch Partial :=
  if (get p).isSome then .error (.duplicateField name) else set p <$> part v

/-- The span among the members that a node does not know, which are looked at in their order. -/
def ofMembers (p : Partial) : List (String × Json) → Except Mismatch Partial
  | [] => .ok p
  | (name, v) :: rest => do
    let p ←
      if name = "startByte" then
        setPart name (·.startByte) (fun p v => { p with startByte := some v }) p v
      else if name = "endByte" then
        setPart name (·.endByte) (fun p v => { p with endByte := some v }) p v
      else if name = "startLine" then
        setPart name (·.startLine) (fun p v => { p with startLine := some v }) p v
      else if name = "endLine" then
        setPart name (·.endLine) (fun p v => { p with endLine := some v }) p v
      else .ok p
    ofMembers p rest

end Span

/-! ## Nodes -/

namespace Node

/-- A node of which some members are given; those that it does not know are kept in reverse. -/
structure Partial where
  id : Option String := none
  nodeType : Option String := none
  snippet : Option String := none
  filePath : Option String := none
  revision : Option String := none
  name : Option String := none
  annotations : Option (Option Json) := none
  others : List (String × Json) := []

/-- A node needs its identity. The span is looked for last. -/
def Partial.complete (absent : Nat → String → Mismatch) (p : Partial) :
    Except Mismatch (Node Json) := do
  let id ← RecordFormat.require absent 0 "id" p.id
  let span ← Span.ofMembers {} p.others.reverse
  return {
    id := id
    nodeType := p.nodeType.getD ""
    span := span.complete
    snippet := p.snippet.getD ""
    filePath := p.filePath.getD ""
    revision := p.revision.getD ""
    name := p.name.getD ""
    annotations := p.annotations.getD none }

def format : RecordFormat Partial (Node Json) where
  title := "AstNode"
  empty := {}
  fields := [
    .of "id" .text (·.id) fun p v => { p with id := some v },
    .of "nodeType" .text (·.nodeType) fun p v => { p with nodeType := some v },
    .of "sourceCodeSnippet" .text (·.snippet) fun p v => { p with snippet := some v },
    .of "filePath" .text (·.filePath) fun p v => { p with filePath := some v },
    .of "gitCommitHash" .text (·.revision) fun p v => { p with revision := some v },
    .of "name" .text (·.name) fun p v => { p with name := some v },
    .of "annotations" (.optional .any) (·.annotations) fun p v => { p with annotations := some v }]
  complete := Partial.complete
  listed := false
  other name room d :=
    (fun v p => { p with others := (name, v) :: p.others }) <$> JsonReader.any room d
  otherStep _ := .unknown

def read : JsonReader (Node Json) := format.read

def toJson (n : Node Json) : Json :=
  .object ([("id", .text n.id), ("nodeType", .text n.nodeType)] ++ n.span.members ++
    [("sourceCodeSnippet", .text n.snippet), ("filePath", .text n.filePath),
      ("gitCommitHash", .text n.revision), ("name", .text n.name)] ++
    n.annotations.toList.map (("annotations", ·)))

end Node

/-! ## Relationships -/

namespace Relationship

structure Partial where
  source : Option String := none
  target : Option String := none
  type : Option String := none

def format : RecordFormat Partial Relationship where
  title := "Relationship"
  empty := {}
  fields := [
    .of "sourceNodeId" .text (·.source) fun p v => { p with source := some v },
    .of "targetNodeId" .text (·.target) fun p v => { p with target := some v },
    .of "relationshipType" .text (·.type) fun p v => { p with type := some v }]
  complete absent p := do
    return {
      source := ← RecordFormat.require absent 0 "sourceNodeId" p.source
      target := ← RecordFormat.require absent 1 "targetNodeId" p.target
      type := ← RecordFormat.require absent 2 "relationshipType" p.type }

def toJson (r : Relationship) : Json := .object [
  ("sourceNodeId", .text r.source),
  ("targetNodeId", .text r.target),
  ("relationshipType", .text r.type)]

end Relationship

end GraphIngest
