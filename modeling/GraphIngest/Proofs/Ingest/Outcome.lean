import GraphIngest.Proofs.Ingest.Phases

/-!
# The outcome of an ingest

An ingest can fail in four ways. Which one the caller is told of is decided by the earliest failure,
and without a failure the summary lists all that was written.

## Main definitions

* `Batch.Failure`: the errors of an ingest, each with what has to go well before it.
* `Batch.result_eq_error_iff`, `Batch.result_eq_ok_iff`: when an ingest fails, and when it succeeds.
* `Batch.result_by_earliest_failure`: an ingest has exactly these outcomes.
-/

namespace GraphIngest

open Dialogue

namespace Batch

variable {store : Store} {before : List StoreCall} {b : Batch Payload}

/-- Why an ingest fails, if a store answers in some way. -/
inductive Failure (store : Store) (before : List StoreCall) (b : Batch Payload) : Error → Prop where
  /-- The batched write fails. -/
  | write {e : Error} : store before (.batch b.objects) = some (.error e) →
      Failure store before b (.nodeWrite e.message)
  /-- An object is refused, and none before it. How many results there are does not matter. -/
  | refused {taken : List ObjectResult} {r : ObjectResult} {rest : List ObjectResult} :
      store before (.batch b.objects) = some (.ok (taken ++ r :: rest)) →
      (∀ x ∈ taken, x.errors = []) → r.errors ≠ [] →
      Failure store before b (.nodeWrite ("object " ++ r.id ++ ": " ++ "; ".intercalate r.errors))
  /-- No object is refused, but there are too few or too many results. -/
  | miscounted {results : List ObjectResult} :
      store before (.batch b.objects) = some (.ok results) → (∀ r ∈ results, r.errors = []) →
      results.length ≠ b.nodes.length →
      Failure store before b (.nodeWrite ("store acknowledged " ++ toString results.length ++
        " of " ++ toString b.nodes.length ++ " objects"))
  /-- All objects are taken, and a relationship is not created, but all before it are. -/
  | reference {results : List ObjectResult} {made : List Relationship} {r : Relationship}
      {rest : List Relationship} {e : Error} :
      store before (.batch b.objects) = some (.ok results) →
      ObjectResult.Acknowledge b.nodes.length results → b.relationships = made ++ r :: rest →
      Created store (before ++ [.batch b.objects]) made →
      store (before ++ [.batch b.objects] ++ made.map Relationship.call) r.call =
        some (.error e) →
      Failure store before b
        (.referenceWrite (r.source ++ " -[" ++ r.type ++ "]-> " ++ r.target) e.message)

/-! ## One outcome at a time -/

theorem result_of_verdict_error (h : b.nodes ≠ []) {a : Except Error (List ObjectResult)}
    {e : Error} (answered : store before (.batch b.objects) = some a)
    (failed : (verdict b.nodes.length a).2 = .error e) :
    (b.ingest.run store before).result = some (.error e) := by
  simp [run_ingest_answered h answered, failed, proceed]

/-- After an acknowledgement the loop over the relationships decides. -/
theorem run_ingest_acknowledged (h : b.nodes ≠ []) {results : List ObjectResult}
    (answered : store before (.batch b.objects) = some (.ok results))
    (taken : ObjectResult.Acknowledge b.nodes.length results) :
    (b.ingest.run store before).result =
      ((b.proceed (.ok ())).run store (before ++ [.batch b.objects])).result := by
  simp [run_ingest_answered h answered, verdict_of_acknowledge taken]

/-- The loop ends with the first relationship that is not created. -/
theorem run_createReferences_failure {made : List Relationship} {r : Relationship}
    {rest : List Relationship} {e : Error} (created : Created store before made)
    (failed : store (before ++ made.map Relationship.call) r.call = some (.error e)) :
    ((createReferences (made ++ r :: rest)).run store before).result =
      some (.error (.referenceWrite r.shown e.message)) := by
  induction made generalizing before with
  | nil => simp [run_createReferences_failed (by simpa using failed)]
  | cons first made ih =>
    obtain ⟨atFirst, others⟩ := created_cons.mp created
    rw [List.cons_append, run_createReferences_created atFirst]
    exact ih others (by simpa using failed)

theorem run_createReferences_all {rs : List Relationship} (created : Created store before rs) :
    ((createReferences rs).run store before).result = some (.ok ()) := by
  induction rs generalizing before with
  | nil => rfl
  | cons r rest ih =>
    obtain ⟨atFirst, others⟩ := created_cons.mp created
    rw [run_createReferences_created atFirst]
    exact ih others

theorem Failure.result (h : b.nodes ≠ []) {e : Error} (failure : Failure store before b e) :
    (b.ingest.run store before).result = some (.error e) := by
  cases failure with
  | write answered => exact result_of_verdict_error h answered rfl
  | refused answered clean refused =>
    refine result_of_verdict_error h answered ?_
    rw [verdict_of_refused (ObjectResult.firstRefused?_append clean refused), refusal]
  | miscounted answered clean miscounted =>
    refine result_of_verdict_error h answered ?_
    rw [verdict_of_miscounted clean miscounted]
  | @reference results made r rest e answered taken split created failed =>
    have loop : ((createReferences b.relationships).run store
        (before ++ [.batch b.objects])).result =
          some (.error (.referenceWrite r.shown e.message)) :=
      split ▸ run_createReferences_failure created failed
    rw [run_ingest_acknowledged h answered taken, run_proceed_ok]
    simp [Transcript.andThen, loop, Relationship.shown]

theorem result_of_created (h : b.nodes ≠ []) {results : List ObjectResult}
    (answered : store before (.batch b.objects) = some (.ok results))
    (taken : ObjectResult.Acknowledge b.nodes.length results)
    (created : Created store (before ++ [.batch b.objects]) b.relationships) :
    (b.ingest.run store before).result = some (.ok (.all b)) := by
  rw [run_ingest_acknowledged h answered taken, run_proceed_ok]
  simp [Transcript.andThen, run_createReferences_all created]

/-! ## There is always one -/

/-- If all calls are answered, then an ingest fails or everything is written. -/
theorem failure_or_created (before : List StoreCall) (b : Batch Payload)
    (finishes : ∀ asked call, (store asked call).isSome) :
    (∃ e, Failure store before b e) ∨
      (∃ results, store before (.batch b.objects) = some (.ok results) ∧
        ObjectResult.Acknowledge b.nodes.length results) ∧
      Created store (before ++ [.batch b.objects]) b.relationships := by
  match answered : store before (.batch b.objects) with
  | none => simpa [answered] using finishes before (.batch b.objects)
  | some (.error e) => exact .inl ⟨_, .write answered⟩
  | some (.ok results) =>
    rcases results_cases b.nodes.length results with ⟨r, first⟩ | ⟨clean, miscounted⟩ | taken
    · obtain ⟨refused, earlier, rest, rfl, clean⟩ :=
        ObjectResult.firstRefused?_eq_some_iff.mp first
      exact .inl ⟨_, .refused answered clean refused⟩
    · exact .inl ⟨_, .miscounted answered clean miscounted⟩
    · rcases run_createReferences_cases store (before ++ [.batch b.objects]) b.relationships with
        ⟨created, -⟩ | ⟨made, r, rest, split, created, ⟨silent, -⟩ | ⟨e, failed, -⟩⟩
      · exact .inr ⟨⟨results, rfl, taken⟩, created⟩
      · exact absurd silent (Option.isSome_iff_ne_none.mp (finishes _ r.call))
      · exact .inl ⟨_, .reference answered taken split created failed⟩

/-- The result is an error of an ingest, or all was written. -/
theorem result_cases (before : List StoreCall) (nonempty : b.nodes ≠ [])
    (finishes : ∀ asked call, (store asked call).isSome) :
    (∃ e, Failure store before b e ∧ (b.ingest.run store before).result = some (.error e)) ∨
      ((∃ results, store before (.batch b.objects) = some (.ok results) ∧
        ObjectResult.Acknowledge b.nodes.length results) ∧
      Created store (before ++ [.batch b.objects]) b.relationships) ∧
      (b.ingest.run store before).result = some (.ok (.all b)) := by
  obtain ⟨e, failure⟩ | ⟨⟨results, answered, taken⟩, created⟩ :=
    failure_or_created before b finishes
  · exact .inl ⟨e, failure, failure.result nonempty⟩
  · exact .inr ⟨⟨⟨results, answered, taken⟩, created⟩,
      result_of_created nonempty answered taken created⟩

theorem result_eq_error_iff (nonempty : b.nodes ≠ [])
    (finishes : ∀ asked call, (store asked call).isSome) {e : Error} :
    (b.ingest.run store before).result = some (.error e) ↔ Failure store before b e := by
  refine ⟨fun failed => ?_, Failure.result nonempty⟩
  obtain ⟨e', failure, result⟩ | ⟨-, result⟩ := result_cases before nonempty finishes
  · obtain rfl : e' = e := by simpa [failed] using result.symm
    exact failure
  · simp [failed] at result

theorem result_eq_ok_iff (nonempty : b.nodes ≠ [])
    (finishes : ∀ asked call, (store asked call).isSome) {s : Summary} :
    (b.ingest.run store before).result = some (.ok s) ↔
      (∃ results, store before (.batch b.objects) = some (.ok results) ∧
        ObjectResult.Acknowledge b.nodes.length results) ∧
      Created store (before ++ [.batch b.objects]) b.relationships ∧ s = .all b := by
  constructor
  · intro succeeded
    obtain ⟨e, -, result⟩ | ⟨⟨written, created⟩, result⟩ := result_cases before nonempty finishes
    · simp [succeeded] at result
    · exact ⟨written, created, by simpa [succeeded] using result⟩
  · rintro ⟨⟨results, answered, taken⟩, created, rfl⟩
    exact result_of_created nonempty answered taken created

/-! ## The earliest failure -/

/-- An ingest of some nodes comes to an end if all calls are answered. It succeeds if and only if
the store took every object and created every relationship in its turn, and then its summary lists
the nodes in their order; otherwise its error is that of the earliest failure. -/
theorem result_by_earliest_failure (store : Store) (before : List StoreCall) (b : Batch Payload)
    (nonempty : b.nodes ≠ []) (finishes : ∀ asked call, (store asked call).isSome) :
    let result := (b.ingest.run store before).result
    (∃ outcome, result = some outcome) ∧
    (∀ s, result = some (.ok s) ↔
      (∃ results : List ObjectResult, store before (.batch b.objects) = some (.ok results) ∧
        results.length = b.nodes.length ∧ ∀ r ∈ results, r.errors = []) ∧
      (∀ (made : List Relationship) (r : Relationship) (rest : List Relationship),
        b.relationships = made ++ r :: rest →
          store (before ++ [.batch b.objects] ++ made.map Relationship.call) r.call =
            some (.ok ())) ∧
      s = {
        message := "Successfully ingested " ++ toString b.nodes.length ++ " nodes and " ++
          toString b.relationships.length ++ " relationships."
        nodeIds := b.nodes.map (·.id)
        relationshipsCreated := b.relationships.length }) ∧
    (∀ e, result = some (.error e) ↔ Failure store before b e) ∧
    (∀ e, result = some (.error e) → (∃ reason, e = .nodeWrite reason) ∨
      ∃ relationship reason, e = .referenceWrite relationship reason) ∧
    b.nodes.map (·.id) = b.objects.map (·.id) := by
  intro result
  refine ⟨?_, fun s => result_eq_ok_iff nonempty finishes,
    fun e => result_eq_error_iff nonempty finishes, fun e failed => ?_, b.map_id_objects.symm⟩
  · obtain ⟨e, -, ends⟩ | ⟨-, ends⟩ := result_cases before nonempty finishes
    · exact ⟨_, ends⟩
    · exact ⟨_, ends⟩
  · cases (result_eq_error_iff nonempty finishes).mp failed with
    | write | refused | miscounted => exact .inl ⟨_, rfl⟩
    | reference => exact .inr ⟨_, _, rfl⟩

/-- An object is refused, and there is a result too many: the refusal is reported. -/
theorem result_by_earliest_failure_refused :
    let b : Batch Payload := ⟨[.new "a" "call", .new "b" "name"], [⟨"a", "b", "calls"⟩]⟩
    let store : Store := fun
      | _, .batch _ => some (.ok [.ok "a", ⟨"b", ["too", "late"]⟩, .ok "c"])
      | _, .reference .. => some (.ok ())
    b.nodes ≠ [] ∧ (∀ asked call, (store asked call).isSome) ∧
      (b.ingest.run store []).result = some (.error (.nodeWrite "object b: too; late")) := by
  intro b store
  have nonempty : b.nodes ≠ [] := by simp [b]
  have finishes : ∀ asked call, (store asked call).isSome := by
    intro asked call
    cases call <;> rfl
  obtain ⟨-, -, errors, -⟩ := result_by_earliest_failure store [] b nonempty finishes
  have results : store [] (.batch b.objects) =
      some (.ok ([.ok "a"] ++ ⟨"b", ["too", "late"]⟩ :: [.ok "c"])) := rfl
  exact ⟨nonempty, finishes,
    (errors _).mpr (.refused results (by simp [ObjectResult.ok]) (by simp))⟩

end Batch

end GraphIngest
