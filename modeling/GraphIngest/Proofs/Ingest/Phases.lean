import GraphIngest.Ingest

/-!
# The phases of an ingest

What the two phases of an ingest come to, one question at a time: a verdict on the answer to the
batched write, and a loop over the relationships.

## Main definitions

* `ObjectResult.Acknowledge`: results that take every object.
* `Batch.verdict`: what an answer to the batched write means.
* `Batch.ingest_of_nonempty`: an ingest is a write, a verdict and the loop.
-/

namespace GraphIngest

/-! ## Results -/

namespace ObjectResult

/-- Whether results take so many objects: there is one for each, and none is a refusal. -/
def Acknowledge (count : Nat) (results : List ObjectResult) : Prop :=
  results.length = count ∧ ∀ r ∈ results, r.errors = []

theorem isOk_iff {r : ObjectResult} : r.isOk = true ↔ r.errors = [] := List.isEmpty_iff

theorem firstRefused?_eq_none_iff {results : List ObjectResult} :
    firstRefused? results = none ↔ ∀ r ∈ results, r.errors = [] := by
  simp [firstRefused?, isOk_iff]

theorem firstRefused?_eq_some_iff {results : List ObjectResult} {r : ObjectResult} :
    firstRefused? results = some r ↔ r.errors ≠ [] ∧
      ∃ taken rest, results = taken ++ r :: rest ∧ ∀ x ∈ taken, x.errors = [] := by
  simp [firstRefused?, List.find?_eq_some_iff_append, ← isOk_iff]

/-- The first refusal splits the results. -/
theorem firstRefused?_append {taken rest : List ObjectResult} {r : ObjectResult}
    (clean : ∀ x ∈ taken, x.errors = []) (refused : r.errors ≠ []) :
    firstRefused? (taken ++ r :: rest) = some r :=
  firstRefused?_eq_some_iff.mpr ⟨refused, taken, rest, rfl, clean⟩

end ObjectResult

namespace Batch

open Dialogue

/-! ## The batched write -/

/-- The refusal of an object, as it is told and as it is returned. -/
def refusal (r : ObjectResult) : List Event × Except Error Unit :=
  let reason := "; ".intercalate r.errors
  ([.refused r.id reason], .error (.nodeWrite ("object " ++ r.id ++ ": " ++ reason)))

/-- What is told and returned after the answer to the write of so many objects. -/
def verdict (count : Nat) :
    Except Error (List ObjectResult) → List Event × Except Error Unit
  | .error e => ([.batchFailed e], .error (.nodeWrite e.message))
  | .ok results =>
    match ObjectResult.firstRefused? results with
    | some r => refusal r
    | none =>
      if results.length = count then ([], .ok ())
      else ([], .error (.nodeWrite ("store acknowledged " ++ toString results.length ++ " of " ++
        toString count ++ " objects")))

theorem verdict_of_refused {count : Nat} {results : List ObjectResult} {r : ObjectResult}
    (h : ObjectResult.firstRefused? results = some r) :
    verdict count (.ok results) = refusal r := by
  simp [verdict, h]

theorem verdict_of_acknowledge {count : Nat} {results : List ObjectResult}
    (h : ObjectResult.Acknowledge count results) : verdict count (.ok results) = ([], .ok ()) := by
  simp [verdict, ObjectResult.firstRefused?_eq_none_iff.mpr h.2, h.1]

theorem verdict_of_miscounted {count : Nat} {results : List ObjectResult}
    (clean : ∀ r ∈ results, r.errors = []) (miscounted : results.length ≠ count) :
    verdict count (.ok results) = ([], .error (.nodeWrite ("store acknowledged " ++
      toString results.length ++ " of " ++ toString count ++ " objects"))) := by
  simp [verdict, ObjectResult.firstRefused?_eq_none_iff.mpr clean, miscounted]

/-- An answer with results is a refusal, or a wrong count, or an acknowledgement. -/
theorem results_cases (count : Nat) (results : List ObjectResult) :
    (∃ r, ObjectResult.firstRefused? results = some r) ∨
      ((∀ r ∈ results, r.errors = []) ∧ results.length ≠ count) ∨
      ObjectResult.Acknowledge count results := by
  cases first : ObjectResult.firstRefused? results with
  | some r => exact .inl ⟨r, rfl⟩
  | none =>
    have clean := ObjectResult.firstRefused?_eq_none_iff.mp first
    by_cases counted : results.length = count
    · exact .inr (.inr ⟨counted, clean⟩)
    · exact .inr (.inl ⟨clean, counted⟩)

/-- The write succeeds only if all objects are acknowledged; otherwise it is a failure of the
nodes. -/
theorem verdict_snd_eq_ok_iff {count : Nat} {a : Except Error (List ObjectResult)} :
    (verdict count a).2 = .ok () ↔ ∃ results, a = .ok results ∧
      ObjectResult.Acknowledge count results := by
  cases a with
  | error e => simp [verdict]
  | ok results =>
    rcases results_cases count results with ⟨r, first⟩ | ⟨clean, miscounted⟩ | taken
    · rw [verdict_of_refused first]
      obtain ⟨refused, earlier, rest, rfl, -⟩ := ObjectResult.firstRefused?_eq_some_iff.mp first
      simp only [refusal, reduceCtorEq, Except.ok.injEq, exists_eq_left', false_iff]
      exact fun h => refused (h.2 r (by simp))
    · simp [verdict_of_miscounted clean miscounted, ObjectResult.Acknowledge, miscounted]
    · simp [verdict_of_acknowledge taken, taken]

theorem verdict_snd_eq_error {count : Nat} {a : Except Error (List ObjectResult)} {e : Error}
    (h : (verdict count a).2 = .error e) : ∃ reason, e = .nodeWrite reason := by
  cases a with
  | error e' => exact ⟨_, (Except.error.inj h).symm⟩
  | ok results =>
    rcases results_cases count results with ⟨r, first⟩ | ⟨clean, miscounted⟩ | taken
    · rw [verdict_of_refused first] at h
      exact ⟨_, (Except.error.inj h).symm⟩
    · rw [verdict_of_miscounted clean miscounted] at h
      exact ⟨_, (Except.error.inj h).symm⟩
    · simp [verdict_of_acknowledge taken] at h

theorem writeObjects_eq (objects : List StoreObject) :
    writeObjects objects = .ask (.batch objects) fun a =>
      (events (verdict objects.length a).1).bind fun _ => .done (verdict objects.length a).2 := by
  simp only [writeObjects, StoreDialogue.batch, question, bind_eq, bind_ask, bind_done]
  congr 1
  funext a
  cases a with
  | error e => rfl
  | ok results =>
    cases first : ObjectResult.firstRefused? results with
    | some r => simp [verdict, first, refusal, events, event]
    | none => by_cases counted : results.length = objects.length <;>
        simp [verdict, first, counted, events]

/-! ## The loop over the relationships -/

section References

variable {store : Store} {before : List StoreCall} {r : Relationship} {rest : List Relationship}

theorem createReferences_cons (r : Relationship) (rest : List Relationship) :
    createReferences (r :: rest) = .ask r.call fun
      | .ok () => createReferences rest
      | .error e => .tell (.relationshipFailed r e)
          (.done (.error (.referenceWrite r.shown e.message))) := by
  refine congrArg (Dialogue.ask r.call) (funext fun a => ?_)
  cases a <;> rfl

theorem run_createReferences_unanswered (h : store before r.call = none) :
    (createReferences (r :: rest)).run store before = ⟨[r.call], [], none⟩ := by
  rw [createReferences_cons, run_ask_unanswered h]

theorem run_createReferences_failed {e : Error} (h : store before r.call = some (.error e)) :
    (createReferences (r :: rest)).run store before = ⟨[r.call], [.relationshipFailed r e],
      some (.error (.referenceWrite r.shown e.message))⟩ := by
  rw [createReferences_cons, run_ask_answered h]
  simp

theorem run_createReferences_created (h : store before r.call = some (.ok ())) :
    (createReferences (r :: rest)).run store before =
      let t := (createReferences rest).run store (before ++ [r.call])
      ⟨r.call :: t.questions, t.events, t.result⟩ := by
  rw [createReferences_cons, run_ask_answered h]

/-- What can become of the call for a relationship. -/
theorem answer_cases (store : Store) (before : List StoreCall) (r : Relationship) :
    store before r.call = none ∨ (∃ e, store before r.call = some (.error e)) ∨
      store before r.call = some (.ok ()) := by
  match h : store before r.call with
  | none => exact .inl rfl
  | some (.error e) => exact .inr (.inl ⟨e, rfl⟩)
  | some (.ok ()) => exact .inr (.inr rfl)

/-- Whether all of some relationships are created, each in its turn after those before it. -/
def Created (store : Store) (before : List StoreCall) (made : List Relationship) : Prop :=
  ∀ (earlier : List Relationship) (r : Relationship) (later : List Relationship),
    made = earlier ++ r :: later →
      store (before ++ earlier.map Relationship.call) r.call = some (.ok ())

@[simp] theorem created_nil (store : Store) (before : List StoreCall) :
    Created store before [] := by
  simp [Created]

theorem created_cons : Created store before (r :: rest) ↔
    store before r.call = some (.ok ()) ∧ Created store (before ++ [r.call]) rest := by
  constructor
  · intro h
    refine ⟨by simpa using h [] r rest rfl, fun earlier r' later split => ?_⟩
    simpa using h (r :: earlier) r' later (by simp [split])
  · rintro ⟨first, others⟩ earlier r' later split
    rcases List.cons_eq_append_iff.mp split with ⟨rfl, same⟩ | ⟨tail, rfl, split'⟩
    · obtain ⟨rfl, rfl⟩ := List.cons.inj same
      simpa using first
    · simpa using others tail r' later split'

/-- How the loop ends: all relationships are created, or there is a first one whose call has no
answer, or an error. Those after it are not touched. -/
theorem run_createReferences_cases (store : Store) (before : List StoreCall)
    (rs : List Relationship) :
    (Created store before rs ∧
      (createReferences rs).run store before = ⟨rs.map Relationship.call, [], some (.ok ())⟩) ∨
    ∃ (made : List Relationship) (r : Relationship) (rest : List Relationship),
      rs = made ++ r :: rest ∧ Created store before made ∧
      ((store (before ++ made.map Relationship.call) r.call = none ∧
        (createReferences rs).run store before =
          ⟨(made ++ [r]).map Relationship.call, [], none⟩) ∨
      ∃ e, store (before ++ made.map Relationship.call) r.call = some (.error e) ∧
        (createReferences rs).run store before =
          ⟨(made ++ [r]).map Relationship.call, [.relationshipFailed r e],
            some (.error (.referenceWrite r.shown e.message))⟩) := by
  induction rs generalizing before with
  | nil => exact .inl ⟨created_nil store before, rfl⟩
  | cons r rest ih =>
    rcases answer_cases store before r with silent | ⟨e, failed⟩ | created
    · exact .inr ⟨[], r, rest, rfl, created_nil store before,
        .inl ⟨by simpa using silent, run_createReferences_unanswered silent⟩⟩
    · exact .inr ⟨[], r, rest, rfl, created_nil store before,
        .inr ⟨e, by simpa using failed, run_createReferences_failed failed⟩⟩
    · rw [run_createReferences_created created]
      rcases ih (before ++ [r.call]) with ⟨all, run⟩ | ⟨made, r', rest', rfl, all, ends⟩
      · exact .inl ⟨created_cons.mpr ⟨created, all⟩, by simp [run]⟩
      · refine .inr ⟨r :: made, r', rest', rfl, created_cons.mpr ⟨created, all⟩, ?_⟩
        rcases ends with ⟨silent, run⟩ | ⟨e, failed, run⟩
        · exact .inl ⟨by simpa using silent, by simp [run]⟩
        · exact .inr ⟨e, by simpa using failed, by simp [run]⟩

end References

/-! ## A whole ingest -/

/-- How an ingest ends after the relationships. -/
def conclude (b : Batch Payload) : Except Error Unit → StoreDialogue (Except Error Summary)
  | .error e => .done (.error e)
  | .ok () => .tell (.ingested b.nodes.length b.relationships.length) (.done (.ok (.all b)))

/-- How an ingest goes on after the verdict on the batched write. -/
def proceed (b : Batch Payload) : Except Error Unit → StoreDialogue (Except Error Summary)
  | .error e => .done (.error e)
  | .ok () => (createReferences b.relationships).bind b.conclude

theorem ingest_of_empty {b : Batch Payload} (h : b.nodes = []) :
    b.ingest = .tell (.received b.nodes.length b.relationships.length)
      (.done (.ok .nothing)) := by
  simp [ingest, isEmpty, h, event]

/-- An ingest writes the objects, judges the answer, and goes on accordingly. -/
theorem ingest_of_nonempty {b : Batch Payload} (h : b.nodes ≠ []) :
    b.ingest = .tell (.received b.nodes.length b.relationships.length)
      ((events (b.omissions.map .omitted)).bind fun _ => .ask (.batch b.objects) fun a =>
        (events (verdict b.nodes.length a).1).bind fun _ =>
          b.proceed (verdict b.nodes.length a).2) := by
  have nonempty : b.isEmpty = false := by simpa [isEmpty] using h
  simp only [ingest, nonempty, Bool.false_eq_true, if_false, writeAll, writeObjects_eq, event,
    bind_eq, bind_tell, bind_done, bind_ask, bind_assoc, length_objects]
  congr 3
  funext _
  congr 1
  funext a
  congr 1
  funext _
  cases (verdict b.nodes.length a).2 with
  | error e => rfl
  | ok u =>
    refine congrArg ((createReferences b.relationships).bind) (funext fun u' => ?_)
    cases u' <;> rfl

/-! ## Runs -/

section Runs

variable {store : Store} {before : List StoreCall} {b : Batch Payload}

theorem run_ingest_unanswered (h : b.nodes ≠ []) (silent : store before (.batch b.objects) = none) :
    b.ingest.run store before = ⟨[.batch b.objects],
      .received b.nodes.length b.relationships.length :: b.omissions.map .omitted, none⟩ := by
  simp [ingest_of_nonempty h, run_bind, run_events, run_ask_unanswered silent, Transcript.andThen]

theorem run_ingest_answered (h : b.nodes ≠ []) {a : Except Error (List ObjectResult)}
    (answered : store before (.batch b.objects) = some a) :
    b.ingest.run store before =
      let t := (b.proceed (verdict b.nodes.length a).2).run store (before ++ [.batch b.objects])
      ⟨.batch b.objects :: t.questions, .received b.nodes.length b.relationships.length ::
        (b.omissions.map .omitted ++ ((verdict b.nodes.length a).1 ++ t.events)), t.result⟩ := by
  simp [ingest_of_nonempty h, run_bind, run_events, run_ask_answered answered, Transcript.andThen]

/-- The end of an ingest asks nothing. -/
theorem run_proceed_ok : (b.proceed (.ok ())).run store before =
    ((createReferences b.relationships).run store before).andThen fun
      | .error e => ⟨[], [], some (.error e)⟩
      | .ok () => ⟨[], [.ingested b.nodes.length b.relationships.length], some (.ok (.all b))⟩ := by
  rw [proceed, run_bind]
  congr 1
  funext r
  cases r <;> rfl

end Runs

end Batch

end GraphIngest
