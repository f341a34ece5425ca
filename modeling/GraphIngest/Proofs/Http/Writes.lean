import GraphIngest.Http.Store
import GraphIngest.Proofs.Dialogue.Laws
import GraphIngest.Proofs.Http.Redirect
import GraphIngest.Proofs.Json.Reader

/-!
# Writes over HTTP

A write is reported as made if the last response is a success. Redirects may have turned the post
into another request by then, so that nothing was written.

## Main definitions

* `HttpStore.post`: the request of a write, as it is sent.
* `HttpStore.batchOutcome`, `HttpStore.referenceOutcome`: what the end of an exchange says about a
  write.
* `HttpStore.Led`: a post led to a response, as it is or through redirects.
* `HttpStore.written_iff_repeated`: a write that is reported was made exactly if every redirect on
  the way repeats requests.
-/

namespace GraphIngest

open Dialogue Request

namespace HttpStore

variable {peer : Partner HttpCall HttpCall.Answer} {before : List HttpCall}

/-- The request that posts a body to an endpoint, as it is sent. -/
def post (s : HttpStore) (segments : List String) (body : Json) : Request :=
  ⟨.post, (s.endpoint segments).withoutUser, some body⟩

@[simp] theorem isReachable_post (s : HttpStore) (segments : List String) (body : Json) :
    (s.post segments body).url.isReachable = s.base.isReachable := rfl

/-- What the end of an exchange says about the objects that were posted. -/
def batchOutcome (objects : List StoreObject) :
    Except TransportError Response → Except Error (List ObjectResult)
  | .error e => .error (.write ("batch request failed: " ++ e.message))
  | .ok response =>
    if response.status.isSuccess then
      match readResults objects response.body with
      | some results => .ok results
      | none => .error (.write "unreadable batch response: error decoding response body")
    else
      .error (.write ("batch rejected with " ++ response.status.shown ++ ": " ++
        explanation response.body))

/-- What the end of an exchange says about the reference that was posted. -/
def referenceOutcome : Except TransportError Response → Except Error Unit
  | .error e => .error (.write ("reference request failed: " ++ e.message))
  | .ok response =>
    if response.status.isSuccess then .ok ()
    else
      .error (.write ("reference rejected with " ++ response.status.shown ++ ": " ++
        explanation response.body))

theorem batchOutcome_eq_ok {objects : List StoreObject}
    {outcome : Except TransportError Response} {results : List ObjectResult} :
    batchOutcome objects outcome = .ok results ↔ ∃ response, outcome = .ok response ∧
      response.status.isSuccess ∧ readResults objects response.body = some results := by
  cases outcome with
  | error e => simp [batchOutcome]
  | ok response =>
    simp only [batchOutcome]
    split
    · split <;> simp_all
    · simp_all

theorem referenceOutcome_eq_ok {outcome : Except TransportError Response} :
    referenceOutcome outcome = .ok () ↔
      ∃ response, outcome = .ok response ∧ response.status.isSuccess := by
  cases outcome with
  | error e => simp [referenceOutcome]
  | ok response => simp [referenceOutcome]

theorem batch_eq (s : HttpStore) (objects : List StoreObject) :
    s.batch objects = ((s.post batchSegments (batchBody objects)).follow greatestRedirects).bind
      fun outcome => .done (batchOutcome objects outcome) := by
  refine congrArg (bind _) (funext fun outcome => ?_)
  cases outcome with
  | error e => rfl
  | ok response =>
    simp only [batchOutcome]
    split
    · cases readResults objects response.body <;> rfl
    · rfl

theorem reference_eq (s : HttpStore) (source property targetClass target : String) :
    s.reference source property targetClass target =
      ((s.post (referenceSegments nodeClass source property)
        (ReferenceBody.toJson ⟨beacon targetClass target⟩)).follow greatestRedirects).bind
        fun outcome => .done (referenceOutcome outcome) := by
  refine congrArg (bind _) (funext fun outcome => ?_)
  cases outcome with
  | error e => rfl
  | ok response =>
    simp only [referenceOutcome]
    split <;> rfl

/-! ## Reported writes -/

/-- A post led to a response, and whether the request with that response is the post: it is exactly
if every redirect on the way repeats requests. -/
def Led (s : HttpStore) (peer : Partner HttpCall HttpCall.Answer) (before : List HttpCall)
    (segments : List String) (body : Json) (asked : List HttpCall) (response : Response) : Prop :=
  ∃ hops last, hops.length ≤ greatestRedirects ∧
    Ends peer before (s.post segments body) asked hops last response ∧
    (last.method = .post ∧ last.body = some body ↔
      ∀ hop ∈ hops, hop.2.status.code = 307 ∨ hop.2.status.code = 308)

/-- Posts lead to the responses with which their exchanges end. -/
theorem result_follow_post_iff {s : HttpStore} {segments : List String} {body : Json}
    {response : Response} :
    (((s.post segments body).follow greatestRedirects).run peer before).result =
        some (.ok response) ↔
      s.Led peer before segments body
        (((s.post segments body).follow greatestRedirects).run peer before).questions
        response := by
  refine follow_ok_iff.trans ⟨?_, ?_⟩
  · rintro ⟨hops, last, few, ends⟩
    exact ⟨hops, last, few, ends, ends.leads.posts_iff ⟨rfl, rfl⟩⟩
  · rintro ⟨hops, last, few, ends, -⟩
    exact ⟨hops, last, few, ends⟩

/-- A write is reported as made if and only if the post led to a response that says so. The request
that has this response is the post of the write if and only if there was no redirect on the way but
those that repeat requests. -/
theorem written_iff_repeated (s : HttpStore) (peer : Partner HttpCall HttpCall.Answer)
    (before : List HttpCall) :
    (∀ source property targetClass target,
      let t := (s.reference source property targetClass target).run peer before
      t.result = some (.ok ()) ↔ ∃ response, response.status.isSuccess ∧
        s.Led peer before (referenceSegments nodeClass source property)
          (ReferenceBody.toJson ⟨beacon targetClass target⟩) t.questions response) ∧
    ∀ objects results,
      let t := (s.batch objects).run peer before
      t.result = some (.ok results) ↔ ∃ response, response.status.isSuccess ∧
        readResults objects response.body = some results ∧
        s.Led peer before batchSegments (batchBody objects) t.questions response := by
  refine ⟨fun source property targetClass target => ?_, fun objects results => ?_⟩
  · simp only [reference_eq, run_bind_done, Option.map_eq_some_iff, referenceOutcome_eq_ok]
    constructor
    · rintro ⟨_, ended, response, rfl, success⟩
      exact ⟨response, success, result_follow_post_iff.mp ended⟩
    · rintro ⟨response, success, led⟩
      exact ⟨_, result_follow_post_iff.mpr led, response, rfl, success⟩
  · simp only [batch_eq, run_bind_done, Option.map_eq_some_iff, batchOutcome_eq_ok]
    constructor
    · rintro ⟨_, ended, response, rfl, success, read⟩
      exact ⟨response, success, read, result_follow_post_iff.mp ended⟩
    · rintro ⟨response, success, read, led⟩
      exact ⟨_, result_follow_post_iff.mpr led, response, rfl, success, read⟩

/-- A store on a host of its own. -/
def onHost : HttpStore where
  base := { scheme := "http".toList, host := some (.domain "h".toList), path := .segments [[]] }
  path := [[]]
  base_path := rfl

/-- A store that moved: the first request is redirected with a status, and the others succeed. -/
def movedWith (code : Nat) : Partner HttpCall HttpCall.Answer := fun
  | [], .send _ => some (.response ⟨⟨code⟩, some "/moved", .complete (Symbol.ofString "moved")⟩)
  | _, .send _ => some (.response ⟨⟨200⟩, none, .complete (Symbol.ofString "[]")⟩)
  | _, .pause _ => some ()

/-- A store moved for good, so that posts are repeated. -/
theorem written_iff_repeated_permanent :
    ((onHost.reference "a" "calls" nodeClass "b").run (movedWith 308) []).result = some (.ok ()) ∧
    ((onHost.batch []).run (movedWith 308) []).result = some (.ok []) ∧
    (∃ response, response.status.isSuccess ∧
      onHost.Led (movedWith 308) [] (referenceSegments nodeClass "a" "calls")
        (ReferenceBody.toJson ⟨beacon nodeClass "b"⟩)
        ((onHost.reference "a" "calls" nodeClass "b").run (movedWith 308) []).questions response) ∧
    ∃ response, response.status.isSuccess ∧ readResults [] response.body = some [] ∧
      onHost.Led (movedWith 308) [] batchSegments (batchBody [])
        ((onHost.batch []).run (movedWith 308) []).questions response := by
  obtain ⟨references, batches⟩ := written_iff_repeated onHost (movedWith 308) []
  have created : ((onHost.reference "a" "calls" nodeClass "b").run (movedWith 308) []).result =
      some (.ok ()) := rfl
  have read : readResults [] (.complete (Symbol.ofString "[]")) = some [] := by
    rw [readResults, ObjectReply.readAll, JsonReader.run,
      JsonToken.tokens_eq_tokensWithin (Nat.le_refl _)]
    rfl
  have answered : (((onHost.post batchSegments (batchBody [])).follow greatestRedirects).run
      (movedWith 308) []).result =
      some (.ok ⟨⟨200⟩, none, .complete (Symbol.ofString "[]")⟩) := rfl
  have written : ((onHost.batch []).run (movedWith 308) []).result = some (.ok []) := by
    rw [batch_eq, run_bind_done, answered]
    simp [batchOutcome, Status.isSuccess, read]
  exact ⟨created, written, (references _ _ _ _).mp created, (batches _ _).mp written⟩

/-- A reference is reported although its post was never answered with success: the redirect led to
a get without a body. -/
theorem reference_reported_without_post :
    let t := (onHost.reference "a" "calls" nodeClass "b").run (movedWith 302) []
    t.result = some (.ok ()) ∧
      ∃ first last, t.questions = [.send first, .send last] ∧
        movedWith 302 [.send first] (.send last) =
          some (.response ⟨⟨200⟩, none, .complete (Symbol.ofString "[]")⟩) ∧
        last.method = .get ∧ last.body = none :=
  ⟨rfl, _, _, rfl, rfl, rfl, rfl⟩

end HttpStore

end GraphIngest
