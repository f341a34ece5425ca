import GraphIngest.Proofs.Http.NodePhase
import GraphIngest.Proofs.Rpc.Request

/-!
# Nodes as they are sent

The text that is posted for the nodes of a request holds one object for each of them, whose
properties are the members of the node in the request.

## Main definitions

* `Json.stored`: the object that a node of a request is stored as.
* `StoreObject.normal_toJson`: it is what the object that is sent reads as.
* `HttpStore.nodes_kept`: the post of the nodes of a request holds exactly these objects.
-/

namespace GraphIngest

/-- The object that a node of a request is stored as. Texts and integers that it does not give are
empty and zero; its annotations, unless they are absent or null, are kept as a text. -/
def Json.stored (v : Json) : Json :=
  let annotations := (v.given? "annotations").map fun a => ("annotations", Json.text a.render)
  .object [
    ("class", .text nodeClass),
    ("id", v.textMember "id"),
    ("properties", .object (annotations.toList ++ [
      ("endByte", v.intMember "endByte"),
      ("endLine", v.intMember "endLine"),
      ("filePath", v.textMember "filePath"),
      ("gitCommitHash", v.textMember "gitCommitHash"),
      ("name", v.textMember "name"),
      ("nodeType", v.textMember "nodeType"),
      ("sourceCodeSnippet", v.textMember "sourceCodeSnippet"),
      ("startByte", v.intMember "startByte"),
      ("startLine", v.intMember "startLine")]))]

/-! ## Objects as they are written -/

namespace StoreObject

theorem isExact_toJson (o : StoreObject) : o.toJson.isExact := by
  have properties : o.properties.toJson.isExact := by
    unfold Properties.toJson Span.members
    cases o.properties.annotations <;> simp
  simp [toJson, properties]

theorem depth_toJson (o : StoreObject) : o.toJson.depth = 2 := by
  have properties : o.properties.toJson.depth = 1 := by
    unfold Properties.toJson Span.members
    cases o.properties.annotations <;> rfl
  simp [toJson, Json.depth, Json.depthMembers, properties]

/-- The object of a node is read as the members of the node. -/
theorem normal_toJson {v : Json} {n : Node Json} (h : Node.Given v n) :
    (n.mapAnnotations .json).rendition.object.toJson.normal = v.stored := by
  have properties : (n.toObject (n.annotations.map Json.render)).properties.toJson.normal =
    .object ((n.annotations.map fun a => ("annotations", Json.text a.render)).toList ++ [
      ("endByte", .int32 n.span.endByte),
      ("endLine", .int32 n.span.endLine),
      ("filePath", .text n.filePath),
      ("gitCommitHash", .text n.revision),
      ("name", .text n.name),
      ("nodeType", .text n.nodeType),
      ("sourceCodeSnippet", .text n.snippet),
      ("startByte", .int32 n.span.startByte),
      ("startLine", .int32 n.span.startLine)]) := by
    unfold Properties.toJson Node.toObject Span.members
    cases n.annotations <;>
      simp only [Json.normal, Json.normalMembers, Json.ofMembers, Json.insertMember, Json.int32,
        Json.int, String.reduceLT, String.reduceEq, reduceIte, List.foldl_cons, List.foldl_nil,
        List.cons_append, List.nil_append, List.append_nil, List.map_cons, List.map_nil,
        Option.map_some, Option.map_none, Option.toList_some, Option.toList_none]
  have id : v.textMember "id" = .text n.id := by rw [Json.textMember, h.id]; rfl
  rw [Node.object_json, Json.stored, id, h.nodeType, h.startByte, h.endByte, h.startLine, h.endLine,
    h.snippet, h.filePath, h.revision, h.name, h.annotations, toJson, Json.normal]
  simp only [Json.normalMembers, properties]
  simp only [Json.normal, Json.ofMembers, Json.insertMember, Node.toObject, String.reduceLT,
    String.reduceEq, reduceIte, List.foldl_cons, List.foldl_nil]

end StoreObject

theorem depth_batchBody (objects : List StoreObject) : (batchBody objects).depth ≤ 4 := by
  have each : Json.depthItems (objects.map StoreObject.toJson) ≤ 2 := by
    simp [Json.depthItems_le_iff, StoreObject.depth_toJson]
  simp only [batchBody, Json.depth, Json.depthMembers]
  omega

theorem isExact_batchBody (objects : List StoreObject) : (batchBody objects).isExact := by
  simp [batchBody, StoreObject.isExact_toJson]

theorem normal_batchBody (objects : List StoreObject) : (batchBody objects).normal =
    .object [("objects", .array (objects.map (·.toJson.normal)))] := by
  have items : Json.normalItems (objects.map StoreObject.toJson) =
      objects.map (·.toJson.normal) := by
    rw [Json.normalItems_eq, List.map_map]
    rfl
  simp [batchBody, Json.normal, Json.normalMembers, items, Json.ofMembers, Json.insertMember]

/-! ## Requests -/

namespace HttpStore

open Dialogue Request JsonReader

/-- The first request of an ingest posts an object for each node in the body of the request, in
their order, that holds the members of the node, and nothing else. The text of annotations is read
as the annotations again if their numbers are exact. -/
theorem nodes_kept (s : HttpStore) {body : List Symbol} {r : IngestRequest}
    (read : IngestRequest.format.read.run body = .ok r) (nonempty : r.nodes ≠ []) :
    let sent := s.nodesPost (.ofJson r)
    (∀ peer before, sent.goes →
      ∃ more, ((s.ingest (.ofJson r)).run peer before).questions = .send sent :: more) ∧
    ∃ payload given, sent.body = some payload ∧ IngestRequest.givenNodes? body = some given ∧
      given.length = r.nodes.length ∧
      any.run (Symbol.ofString payload.render) =
        .ok (.object [("objects", .array (given.map Json.stored))]) ∧
      ∀ v ∈ given, (∃ id, v.get? "id" = some (.text id)) ∧
        ∀ a, v.given? "annotations" = some a → a.isExact →
          any.run (Symbol.ofString a.render) = .ok a := by
  intro sent
  have some_nodes : (Batch.ofJson r).nodes ≠ [] := by simpa [Batch.ofJson] using nonempty
  refine ⟨fun peer before goes => s.exists_questions_of_ingest peer before some_nodes goes, ?_⟩
  obtain ⟨given, found, same, each⟩ := IngestRequest.nodes_of_run Json.stored
    (fun n => (n.mapAnnotations Payload.json).rendition.object.toJson.normal)
    (fun _ _ parts => (StoreObject.normal_toJson parts).symm) read nonempty
  refine ⟨_, given, rfl, found, by simpa using congrArg List.length same, ?_, fun v among => ?_⟩
  · have shallow := depth_batchBody (Batch.ofJson r).objects
    rw [any_run_render (Json.faithful_of_isExact (isExact_batchBody _))
      (Nat.le_trans shallow (by decide)), normal_batchBody, same]
    simp [Batch.objects, Batch.renditions, Batch.ofJson, Function.comp_def]
  · obtain ⟨⟨n, parts⟩, d, value⟩ := each v among
    refine ⟨⟨n.id, parts.id⟩, fun a given exact => ?_⟩
    obtain ⟨left, d', fewer, value⟩ := exists_any_of_get? value (Json.get?_of_given? given)
    exact any_run_render_of_any value (Nat.le_trans fewer (by decide))
      (Json.faithful_of_isExact exact)

/-- A request with one node, which has annotations. -/
def annotatedBody : List Symbol := Symbol.ofString ("\x7b\"astNodes\":[\x7b\"id\":\"a\"," ++
  "\"name\":\"f\\n\",\"endByte\":-7,\"annotations\":[\"\\\"\",1]\x7d]\x7d")

/-- The members of that node. -/
def annotatedMembers : List (String × Json) :=
  [("id", .text "a"), ("name", .text "f\n"), ("endByte", .int (-7)),
    ("annotations", .array [.text "\"", .int 1])]

/-- The node itself. -/
def annotatedNode : Node Json :=
  { (.new "a" "" : Node Json) with
    name := "f\n", span := { endByte := -7 }, annotations := some (.array [.text "\"", .int 1]) }

theorem build_annotatedBody : Draft.build (JsonToken.tokens annotatedBody) =
    (.object [(⟨"astNodes".toList.map .char, .closed⟩, .array [.object [
      (⟨[.char 'i', .char 'd'], .closed⟩, .text ⟨[.char 'a'], .closed⟩),
      (⟨"name".toList.map .char, .closed⟩, .text ⟨[.char 'f', .char '\n'], .closed⟩),
      (⟨"endByte".toList.map .char, .closed⟩, .number ⟨true, ['7'], [], none⟩),
      (⟨"annotations".toList.map .char, .closed⟩,
        .array [.text ⟨[.char '"'], .closed⟩, .number ⟨false, ['1'], [], none⟩] .closed)]
      .closed] .closed)] .closed, []) := by
  rw [JsonToken.tokens_eq_tokensWithin (Nat.le_refl _)]
  rfl

/-- The node is stored with its annotations as a text, and what it does not give is empty. -/
theorem nodes_kept_annotated :
    IngestRequest.format.read.run annotatedBody = .ok ⟨[annotatedNode], []⟩ ∧
    any.run (Symbol.ofString
        (batchBody (Batch.ofJson ⟨[annotatedNode], []⟩).objects).render) =
      .ok (.object [("objects", .array [.object [
        ("class", .text "ASTNode"),
        ("id", .text "a"),
        ("properties", .object [
          ("annotations", .text "[\"\\\"\",1]"),
          ("endByte", .int (-7)),
          ("endLine", .int 0),
          ("filePath", .text ""),
          ("gitCommitHash", .text ""),
          ("name", .text "f\n"),
          ("nodeType", .text ""),
          ("sourceCodeSnippet", .text ""),
          ("startByte", .int 0),
          ("startLine", .int 0)])]])]) := by
  have read : IngestRequest.format.read.run annotatedBody = .ok ⟨[annotatedNode], []⟩ := by
    rw [JsonReader.run, build_annotatedBody]
    rfl
  have given : IngestRequest.givenNodes? annotatedBody = some [.ofMembers annotatedMembers] := by
    rw [IngestRequest.givenNodes?, build_annotatedBody]
    rfl
  obtain ⟨-, payload, given', sent, found, -, reads, -⟩ := nodes_kept onHost read (by simp)
  obtain rfl := Option.some.inj sent
  obtain rfl := Option.some.inj (found.symm.trans given)
  have text : (Json.array [.text "\"", .int 1]).render = "[\"\\\"\",1]" := by decide +kernel
  refine ⟨read, reads.trans ?_⟩
  simp [annotatedMembers, Json.stored, Json.textMember, Json.intMember, Json.given?,
    Json.get?_ofMembers, nodeClass, Json.lookup_cons_eq, text]

end HttpStore

end GraphIngest
