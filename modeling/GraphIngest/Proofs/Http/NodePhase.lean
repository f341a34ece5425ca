import GraphIngest.Proofs.Http.Writes
import GraphIngest.Proofs.Ingest.Phases
import GraphIngest.Proofs.Store.Reply

/-!
# The nodes over HTTP

The post of the nodes may be lost, or answered in any way. The relationships come next only if the
answer takes every node.

## Main definitions

* `HttpStore.Taken`: an exchange whose last response takes all nodes of a batch.
* `HttpStore.run_ingest_of_ended`: an ingest is the exchange of the nodes and what its end leads to.
* `HttpStore.node_phase`: when the relationships come next, and what is said if they do not.
-/

namespace GraphIngest

open Dialogue Request

/-! ## Answers -/

theorem readResults_eq_some {objects : List StoreObject} {body : ResponseBody}
    {results : List ObjectResult} : HttpStore.readResults objects body = some results ↔
      ∃ bytes replies, body = .complete bytes ∧ ObjectReply.readAll.run bytes = .ok replies ∧
        ObjectReply.toResults (objects.map (·.id)) replies = results := by
  cases body with
  | broken => simp [HttpStore.readResults]
  | complete bytes =>
    cases read : ObjectReply.readAll.run bytes with
    | error e => simp [HttpStore.readResults, read]
    | ok replies => simp [HttpStore.readResults, read]

namespace HttpStore

variable {peer : Partner HttpCall HttpCall.Answer} {before : List HttpCall} {b : Batch Payload}
  {outcome : Except TransportError Response}

/-- Whether the last response of an exchange takes all nodes: it is a success, and its whole body is
an array with an entry without messages for each node. -/
def Taken (b : Batch Payload) (outcome : Except TransportError Response) : Prop :=
  ∃ response bytes entries, outcome = .ok response ∧ response.status.isSuccess ∧
    response.body = .complete bytes ∧ ObjectReply.Reads bytes entries ∧
    entries.length = b.nodes.length ∧ ∀ e ∈ entries, e.messages = []

theorem readResults_of_reads {bytes : List Symbol} {entries : List Draft}
    (objects : List StoreObject) (h : ObjectReply.Reads bytes entries) :
    readResults objects (.complete bytes) =
      some (entries.mapIdx (ObjectReply.resultAt (objects.map (·.id)))) := by
  obtain ⟨replies, read⟩ := h.1
  obtain ⟨entries', reads, places⟩ := ObjectReply.results_of_run (objects.map (·.id)) read
  obtain rfl := reads.unique h
  exact readResults_eq_some.mpr ⟨bytes, replies, rfl, read, places⟩

/-- A body that is read into results holds their entries. -/
theorem exists_reads_of_readResults {objects : List StoreObject} {body : ResponseBody}
    {results : List ObjectResult} (h : readResults objects body = some results) :
    ∃ bytes entries, body = .complete bytes ∧ ObjectReply.Reads bytes entries ∧
      results = entries.mapIdx (ObjectReply.resultAt (objects.map (·.id))) := by
  obtain ⟨bytes, replies, rfl, read, rfl⟩ := readResults_eq_some.mp h
  obtain ⟨entries, reads, places⟩ := ObjectReply.results_of_run (objects.map (·.id)) read
  exact ⟨bytes, entries, rfl, reads, places⟩

/-- Entries have no messages if and only if their results have none. -/
theorem acknowledge_mapIdx_iff {count : Nat} {submitted : List String} {entries : List Draft} :
    ObjectResult.Acknowledge count (entries.mapIdx (ObjectReply.resultAt submitted)) ↔
      entries.length = count ∧ ∀ e ∈ entries, e.messages = [] := by
  rw [ObjectResult.Acknowledge, List.length_mapIdx]
  refine and_congr_right fun _ => ⟨fun clean e among => ?_, fun clean r among => ?_⟩
  · obtain ⟨i, inside, rfl⟩ := List.getElem_of_mem among
    exact clean _ (List.mem_mapIdx.mpr ⟨i, inside, rfl⟩)
  · obtain ⟨i, inside, rfl⟩ := List.mem_mapIdx.mp among
    exact clean _ (List.getElem_mem inside)

/-- The exchange takes the nodes if and only if the verdict on the batched write is good. -/
theorem taken_iff : Taken b outcome ↔
    (Batch.verdict b.nodes.length (batchOutcome b.objects outcome)).2 = .ok () := by
  rw [Batch.verdict_snd_eq_ok_iff]
  constructor
  · rintro ⟨response, bytes, entries, rfl, success, complete, reads, counted, clean⟩
    have read := readResults_of_reads b.objects reads
    exact ⟨_, batchOutcome_eq_ok.mpr ⟨response, rfl, success, by rw [complete, read]⟩,
      acknowledge_mapIdx_iff.mpr ⟨counted, clean⟩⟩
  · rintro ⟨results, written, acknowledged⟩
    obtain ⟨response, rfl, success, read⟩ := batchOutcome_eq_ok.mp written
    obtain ⟨bytes, entries, complete, reads, rfl⟩ := exists_reads_of_readResults read
    obtain ⟨counted, clean⟩ := acknowledge_mapIdx_iff.mp acknowledged
    exact ⟨response, bytes, entries, rfl, success, complete, reads, counted, clean⟩

/-- The first entry with messages is the one that is reported. -/
theorem verdict_of_entry {response : Response} {bytes : List Symbol}
    {accepted rest : List Draft} {e : Draft} (count : Nat) (objects : List StoreObject)
    (success : response.status.isSuccess) (complete : response.body = .complete bytes)
    (reads : ObjectReply.Reads bytes (accepted ++ e :: rest))
    (clean : ∀ a ∈ accepted, a.messages = []) (refused : e.messages ≠ []) :
    Batch.verdict count (batchOutcome objects (.ok response)) =
      Batch.refusal (ObjectReply.resultAt (objects.map (·.id)) accepted.length e) := by
  have written : batchOutcome objects (.ok response) = .ok ((accepted ++ e :: rest).mapIdx
      (ObjectReply.resultAt (objects.map (·.id)))) :=
    batchOutcome_eq_ok.mpr ⟨response, rfl, success, by
      rw [complete, readResults_of_reads objects reads]⟩
  rw [written]
  apply Batch.verdict_of_refused
  rw [List.mapIdx_append, List.mapIdx_cons, Nat.zero_add]
  refine ObjectResult.firstRefused?_append (fun r among => ?_) refused
  obtain ⟨i, inside, rfl⟩ := List.mem_mapIdx.mp among
  exact clean _ (List.getElem_mem inside)

/-! ## The exchange of the nodes -/

/-- The post of the nodes of a batch. -/
abbrev nodesPost (s : HttpStore) (b : Batch Payload) : Request :=
  s.post batchSegments (batchBody b.objects)

/-- The post of a relationship. -/
abbrev relationshipPost (s : HttpStore) (r : Relationship) : Request :=
  s.post (referenceSegments nodeClass r.source r.type)
    (ReferenceBody.toJson ⟨beacon nodeClass r.target⟩)

/-- An ingest over HTTP: the batched write, and then what the verdict on it leads to. -/
theorem ingest_eq (s : HttpStore) (nonempty : b.nodes ≠ []) :
    s.ingest b = .tell (.received b.nodes.length b.relationships.length)
      ((events (b.omissions.map .omitted)).bind fun _ => (s.batch b.objects).bind fun a =>
        (events (Batch.verdict b.nodes.length a).1).bind fun _ =>
          (b.proceed (Batch.verdict b.nodes.length a).2).via s.answer) := by
  simp only [ingest, Batch.ingest_of_nonempty nonempty, via, via_bind, via_events, answer]

/-- The post of the nodes is the first request of an ingest, if anything can be sent to its URL. -/
theorem exists_questions_of_ingest (s : HttpStore) (peer : Partner HttpCall HttpCall.Answer)
    (before : List HttpCall) (nonempty : b.nodes ≠ []) (goes : (s.nodesPost b).goes) :
    ∃ more, ((s.ingest b).run peer before).questions = .send (s.nodesPost b) :: more := by
  obtain ⟨more, first⟩ := exists_questions_of_goes peer before greatestRedirects goes
  simp only [ingest_eq s nonempty, batch_eq, bind_assoc, run_tell, run_bind, run_events,
    Transcript.andThen, List.append_nil, List.nil_append]
  split
  · exact ⟨more, first⟩
  · exact ⟨_, congrArg (· ++ _) first⟩

/-- An ingest is the exchange of the nodes, and then what the verdict on its end leads to. -/
theorem run_ingest_of_ended (s : HttpStore) (nonempty : b.nodes ≠ [])
    (ended : (((s.nodesPost b).follow greatestRedirects).run peer before).result = some outcome) :
    let exchange := ((s.nodesPost b).follow greatestRedirects).run peer before
    let rest := ((b.proceed (Batch.verdict b.nodes.length (batchOutcome b.objects outcome)).2).via
      s.answer).run peer (before ++ exchange.questions)
    ((s.ingest b).run peer before).questions = exchange.questions ++ rest.questions ∧
      ((s.ingest b).run peer before).result = rest.result := by
  simp [ingest_eq s nonempty, batch_eq, bind_assoc, run_bind, run_events, ended,
    Transcript.andThen]

/-- The relationships over HTTP, after the nodes were taken. -/
theorem run_proceed_ok_via (s : HttpStore) (peer : Partner HttpCall HttpCall.Answer)
    (before : List HttpCall) (b : Batch Payload) :
    let references := ((Batch.createReferences b.relationships).via s.answer).run peer before
    let t := ((b.proceed (.ok ())).via s.answer).run peer before
    t.questions = references.questions ∧
      t.result = references.result.map fun r => r.map fun _ => .all b := by
  simp only [Batch.proceed, via_bind, run_bind, Transcript.andThen]
  cases (((Batch.createReferences b.relationships).via s.answer).run peer before).result with
  | none => exact ⟨rfl, rfl⟩
  | some r =>
    cases r with
    | error e => simp [Batch.conclude, via, Except.map]
    | ok u => simp [Batch.conclude, via, Except.map]

/-- The first relationship is posted, if anything can be sent to the URL of its references. -/
theorem exists_questions_of_references (s : HttpStore)
    (peer : Partner HttpCall HttpCall.Answer) (before : List HttpCall) {r : Relationship}
    (rest : List Relationship) (goes : (s.relationshipPost r).goes) :
    ∃ more, (((Batch.createReferences (r :: rest)).via s.answer).run peer before).questions =
      .send (s.relationshipPost r) :: more := by
  obtain ⟨more, first⟩ := exists_questions_of_goes peer before greatestRedirects goes
  simp only [Batch.createReferences_cons, via, Relationship.call, answer, reference_eq, bind_assoc,
    run_bind, Transcript.andThen]
  split
  · exact ⟨more, first⟩
  · exact ⟨_, congrArg (· ++ _) first⟩

/-- After an exchange with a response, the requests to the same store reach it. -/
theorem goes_of_ended (s : HttpStore) {r : Relationship} {response : Response}
    (ended : (((s.nodesPost b).follow greatestRedirects).run peer before).result =
      some (.ok response)) (sendable : (s.relationshipPost r).url.isSendable) :
    (s.relationshipPost r).goes := by
  cases goes : (s.nodesPost b).goes with
  | false =>
    obtain ⟨e, run⟩ := questions_of_stays peer before greatestRedirects goes
    simp [run] at ended
  | true =>
    simp only [Request.goes, isReachable_post, Bool.and_eq_true] at goes ⊢
    exact ⟨sendable, goes.2⟩

/-- The exchange of the nodes ends in some way. If its last response takes all nodes, then the
relationships come next, and decide the result. Otherwise nothing more is sent, and the failure is
one of the nodes. It names the first entry that has messages, if the answer could be read. There is
only one request for the nodes unless it is redirected. -/
theorem node_phase (s : HttpStore) (peer : Partner HttpCall HttpCall.Answer)
    (before : List HttpCall) (b : Batch Payload) (nonempty : b.nodes ≠ [])
    (outcome : Except TransportError Response)
    (ended : (((s.nodesPost b).follow greatestRedirects).run peer before).result = some outcome) :
    let exchange := ((s.nodesPost b).follow greatestRedirects).run peer before
    let references := ((Batch.createReferences b.relationships).via s.answer).run peer
      (before ++ exchange.questions)
    let t := (s.ingest b).run peer before
    (Taken b outcome →
      t.questions = exchange.questions ++ references.questions ∧
      t.result = references.result.map (fun r => r.map fun _ => .all b) ∧
      ∀ (r : Relationship) (rest : List Relationship), b.relationships = r :: rest →
        (s.relationshipPost r).url.isSendable →
        ∃ more, t.questions = exchange.questions ++ .send (s.relationshipPost r) :: more) ∧
    (¬ Taken b outcome → t.questions = exchange.questions ∧
      ∃ reason, t.result = some (.error (.nodeWrite reason))) ∧
    (∀ (response : Response) (bytes : List Symbol) (accepted : List Draft) (e : Draft)
      (rest : List Draft), outcome = .ok response → response.status.isSuccess →
      response.body = .complete bytes → ObjectReply.Reads bytes (accepted ++ e :: rest) →
      (∀ a ∈ accepted, a.messages = []) → e.messages ≠ [] →
      t.result = some (.error (.nodeWrite ("object " ++
        e.ownId?.getD ((b.objects.map (·.id))[accepted.length]?.getD "") ++ ": " ++
        "; ".intercalate e.messages)))) ∧
    ((s.nodesPost b).goes = false → exchange.questions = []) ∧
    ∀ reply : Reply, (s.nodesPost b).goes → peer before (.send (s.nodesPost b)) = some reply →
      (∀ response, reply = .response response → response.redirect? (s.nodesPost b) = none) →
      exchange.questions = [.send (s.nodesPost b)] ∧
        outcome = (s.nodesPost b).received reply := by
  intro exchange references t
  obtain ⟨asked, result⟩ := run_ingest_of_ended s nonempty ended
  refine ⟨fun taken => ?_, fun refused => ?_, ?_, fun stays => ?_,
    fun reply goes answer final => ?_⟩
  · rw [taken_iff.mp taken] at asked result
    obtain ⟨questions, conclusion⟩ :=
      s.run_proceed_ok_via peer (before ++ exchange.questions) b
    have asked : t.questions = exchange.questions ++ references.questions :=
      asked.trans (congrArg _ questions)
    refine ⟨asked, result.trans conclusion, fun r rest first sendable => ?_⟩
    obtain ⟨response, -, -, rfl, -⟩ := taken
    obtain ⟨more, sent⟩ := s.exists_questions_of_references peer
      (before ++ exchange.questions) rest (s.goes_of_ended ended sendable)
    rw [← first] at sent
    exact ⟨more, asked.trans (congrArg _ sent)⟩
  · cases verdict : (Batch.verdict b.nodes.length (batchOutcome b.objects outcome)).2 with
    | ok u => exact absurd (taken_iff.mpr verdict) refused
    | error e =>
      rw [verdict] at asked result
      obtain ⟨reason, rfl⟩ := Batch.verdict_snd_eq_error verdict
      exact ⟨asked.trans (List.append_nil _), reason, result⟩
  · rintro response bytes accepted e rest rfl success complete reads clean refused
    rw [verdict_of_entry _ _ success complete reads clean refused] at result
    exact result
  · obtain ⟨e, run⟩ := questions_of_stays peer before greatestRedirects stays
    simp [exchange, run]
  · have run := run_follow_of_final greatestRedirects goes answer final
    refine ⟨by simp [exchange, run], ?_⟩
    rw [run] at ended
    exact (Option.some.inj ended).symm

/-- A store that answers all requests with success and one body. -/
def replyingWith (body : List Symbol) : Partner HttpCall HttpCall.Answer := fun
  | _, .send _ => some (.response ⟨⟨200⟩, none, .complete body⟩)
  | _, .pause _ => some ()

/-- An answer with one entry, which names no object and has a message. -/
def refusedBody : List Symbol := Symbol.ofString ("[\x7b\"result\":\x7b\"errors\":" ++
  "\x7b\"error\":[\x7b\"message\":\"no\"\x7d]\x7d\x7d\x7d]")

/-- The entry of that answer. -/
def refusedEntry : Draft :=
  let quoted (s : String) : Quoted := ⟨s.toList.map .char, .closed⟩
  let error : Draft := .object [(quoted "message", .text (quoted "no"))] .closed
  let errors : Draft := .object [(quoted "error", .array [error] .closed)] .closed
  .object [(quoted "result", .object [(quoted "errors", errors)] .closed)] .closed

theorem reads_refusedBody : ObjectReply.Reads refusedBody [refusedEntry] := by
  have built : Draft.build (JsonToken.tokens refusedBody) =
      (.array [refusedEntry] .closed, []) := by
    rw [JsonToken.tokens_eq_tokensWithin (Nat.le_refl _)]
    rfl
  refine ⟨⟨[⟨none, some ⟨some ⟨[⟨"no"⟩]⟩⟩⟩], ?_⟩, .closed, congrArg Prod.fst built⟩
  rw [JsonReader.run, built]
  rfl

/-- The entry refuses the node, and so the relationship is not posted. -/
theorem node_phase_refused :
    let b : Batch Payload := ⟨[.new "a" "call"], [⟨"a", "b", "calls"⟩]⟩
    let t := (onHost.ingest b).run (replyingWith refusedBody) []
    b.nodes ≠ [] ∧
      (((onHost.nodesPost b).follow greatestRedirects).run (replyingWith refusedBody) []).result =
        some (.ok ⟨⟨200⟩, none, .complete refusedBody⟩) ∧
      t.questions = [.send (onHost.nodesPost b)] ∧
      t.result = some (.error (.nodeWrite "object a: no")) := by
  intro b t
  have nonempty : b.nodes ≠ [] := by simp [b]
  have ended : (((onHost.nodesPost b).follow greatestRedirects).run
      (replyingWith refusedBody) []).result =
      some (.ok ⟨⟨200⟩, none, .complete refusedBody⟩) := rfl
  have messages : refusedEntry.messages = ["no"] := rfl
  have not_taken : ¬ Taken b (.ok ⟨⟨200⟩, none, .complete refusedBody⟩) := by
    rintro ⟨_, _, entries, outcome, -, complete, reads, -, clean⟩
    obtain rfl := Except.ok.inj outcome
    obtain rfl := ResponseBody.complete.inj complete
    obtain rfl := reads.unique reads_refusedBody
    simp [messages] at clean
  obtain ⟨-, refused, named, -, single⟩ := node_phase onHost _ [] b nonempty _ ended
  have once := (single _ rfl rfl fun _ final => by obtain rfl := Reply.response.inj final; rfl).1
  refine ⟨nonempty, ended, (refused not_taken).1.trans once, ?_⟩
  have result := named _ _ [] refusedEntry [] rfl rfl rfl reads_refusedBody (by simp)
    (by simp [messages])
  rw [messages] at result
  exact result

end HttpStore

end GraphIngest
