import GraphIngest.Proofs.Dialogue.Laws
import GraphIngest.Proofs.Ingest.Phases
import Mathlib.Data.List.Forall2

/-!
# Acknowledgements

A store acknowledges objects by the places of its results: the first result is about the first
object, and so on. The identities in the results name what was refused, and nothing else depends on
them.

## Main definitions

* `Batch.refusedRun`: what becomes of an ingest of which an object is refused.

## Main statements

* `Batch.acknowledge_of_result`: an ingest that succeeds was acknowledged.
* `Batch.acknowledged_in_place`: each object has a result without errors in its own place, and the
  identities in the results matter only where an object is refused.
* `Batch.reports_other_than_acknowledged`: they may be others than those of the objects.
-/

namespace GraphIngest

open Dialogue

namespace ObjectResult

variable {results : List ObjectResult} {r : ObjectResult}

/-- The first refusal is known by its place. -/
theorem firstRefused?_eq_some_iff_place : firstRefused? results = some r ↔
    ∃ i : Nat, results[i]? = some r ∧ r.errors ≠ [] ∧ ∀ x ∈ results.take i, x.errors = [] := by
  constructor
  · intro first
    obtain ⟨refused, taken, rest, rfl, clean⟩ := firstRefused?_eq_some_iff.mp first
    exact ⟨taken.length, by simp, refused, by simpa using clean⟩
  · rintro ⟨i, here, refused, clean⟩
    have split : results = results.take i ++ r :: results.drop (i + 1) := by
      obtain ⟨within, rfl⟩ := List.getElem?_eq_some_iff.mp here
      rw [List.getElem_cons_drop, List.take_append_drop]
    exact firstRefused?_eq_some_iff.mpr ⟨refused, _, _, split, clean⟩

end ObjectResult

namespace Batch

variable {store : Store} {before : List StoreCall} {b : Batch Payload}

/-- Results that take so many objects are, one by one, results without errors for these objects. -/
theorem forall₂_of_acknowledge {results : List ObjectResult}
    (taken : ObjectResult.Acknowledge b.nodes.length results) :
    List.Forall₂ (fun (_ : StoreObject) r => r.errors = []) b.objects results := by
  rw [List.forall₂_iff_get]
  refine ⟨by rw [length_objects, taken.1], fun i _ among => ?_⟩
  exact taken.2 _ (List.get_mem results ⟨i, among⟩)

/-- An ingest succeeds only if all objects were acknowledged, and then everything was written. -/
theorem acknowledge_of_result (nonempty : b.nodes ≠ []) {s : Summary}
    (succeeded : (b.ingest.run store before).result = some (.ok s)) :
    ∃ results, store before (.batch b.objects) = some (.ok results) ∧
      ObjectResult.Acknowledge b.nodes.length results ∧ s = .all b := by
  cases write : store before (.batch b.objects) with
  | none => simp [run_ingest_unanswered nonempty write] at succeeded
  | some a =>
    rw [run_ingest_answered nonempty write] at succeeded
    cases verdict_eq : (verdict b.nodes.length a).2 with
    | error e => simp [verdict_eq, proceed] at succeeded
    | ok =>
      obtain ⟨results, rfl, taken⟩ := verdict_snd_eq_ok_iff.mp verdict_eq
      refine ⟨results, rfl, taken, ?_⟩
      rw [verdict_eq, run_proceed_ok, Transcript.andThen] at succeeded
      dsimp only at succeeded
      split at succeeded
      · cases succeeded
      · rename_i outcome _
        cases outcome with
        | error e => cases succeeded
        | ok => exact (Except.ok.inj (Option.some.inj succeeded)).symm

/-- What becomes of an ingest of which the store refuses an object, given the result that refuses
it. The identity of the result is told and returned. -/
def refusedRun (b : Batch Payload) (r : ObjectResult) :
    Transcript StoreCall Event (Except Error Summary) where
  questions := [.batch b.objects]
  events := .received b.nodes.length b.relationships.length ::
    (b.omissions.map .omitted ++ [.refused r.id ("; ".intercalate r.errors)])
  result := some (.error (.nodeWrite ("object " ++ r.id ++ ": " ++ "; ".intercalate r.errors)))

theorem run_ingest_refused {results : List ObjectResult} {r : ObjectResult}
    (nonempty : b.nodes ≠ []) (write : store before (.batch b.objects) = some (.ok results))
    (first : ObjectResult.firstRefused? results = some r) :
    b.ingest.run store before = b.refusedRun r := by
  rw [run_ingest_answered nonempty write, verdict_of_refused first]
  simp [refusal, proceed, refusedRun]

/-- What becomes of an ingest depends on the answer to the batched write only as far as the verdict
on it does. -/
theorem run_ingest_answering {results others : List ObjectResult} (nonempty : b.nodes ≠ [])
    (write : store before (.batch b.objects) = some (.ok results))
    (same : verdict b.nodes.length (.ok others) = verdict b.nodes.length (.ok results)) :
    b.ingest.run (store.answering before (.batch b.objects) (.ok others)) before =
      b.ingest.run store before := by
  have later (more : List StoreCall) (call : StoreCall) :
      store.answering before (.batch b.objects) (.ok others)
        (before ++ [.batch b.objects] ++ more) call =
        store (before ++ [.batch b.objects] ++ more) call :=
    Partner.answering_of_ne (by simp)
  rw [run_ingest_answered nonempty (Partner.answering_self ..), run_ingest_answered nonempty write,
    same, run_congr later]

section Identities

/-! Results that differ in nothing but identities. -/

variable {results others : List ObjectResult}
variable (same : others.map (·.errors) = results.map (·.errors))
include same

theorem length_of_same_errors : others.length = results.length := by
  simpa using congrArg List.length same

theorem clean_of_same_errors (clean : ∀ r ∈ results, r.errors = []) :
    ∀ r ∈ others, r.errors = [] := by
  intro r among
  have listed : r.errors ∈ results.map (·.errors) := same ▸ List.mem_map_of_mem among
  obtain ⟨r', among', errors⟩ := List.mem_map.mp listed
  exact errors ▸ clean r' among'

theorem verdict_of_same_errors (clean : ∀ r ∈ results, r.errors = []) (count : Nat) :
    verdict count (.ok others) = verdict count (.ok results) := by
  simp only [verdict, ObjectResult.firstRefused?_eq_none_iff.mpr clean,
    ObjectResult.firstRefused?_eq_none_iff.mpr (clean_of_same_errors same clean),
    length_of_same_errors same]

/-- The first refusal stays in its place. -/
theorem firstRefused?_of_same_errors {i : Nat} {r r' : ObjectResult} (here : results[i]? = some r)
    (there : others[i]? = some r') (refused : r.errors ≠ [])
    (clean : ∀ x ∈ results.take i, x.errors = []) :
    ObjectResult.firstRefused? others = some r' := by
  have errors : r'.errors = r.errors := by
    have places := congrArg (·[i]?) same
    simpa [here, there] using places
  have earlier : (others.take i).map (·.errors) = (results.take i).map (·.errors) := by
    rw [List.map_take, List.map_take, same]
  exact ObjectResult.firstRefused?_eq_some_iff_place.mpr
    ⟨i, there, errors ▸ refused, clean_of_same_errors earlier clean⟩

end Identities

/-- An ingest of some nodes succeeds only if the store has a result for each object in its own
place, and for nothing else, and none of them has errors. The identities that are reported are those
of the objects in their order. The identities in the results have no part in that: if these are any
others, then the ingest makes the same calls, and unless an object is refused it tells the same and
has the same result. If one is refused, then what is told and returned names the identity in the
first refusal, and is the same otherwise. -/
theorem acknowledged_in_place (store : Store) (before : List StoreCall) (b : Batch Payload)
    (nonempty : b.nodes ≠ []) :
    (∀ s, (b.ingest.run store before).result = some (.ok s) →
      ∃ results : List ObjectResult, store before (.batch b.objects) = some (.ok results) ∧
        List.Forall₂ (fun (_ : StoreObject) r => r.errors = []) b.objects results ∧
        s.nodeIds = b.objects.map (·.id)) ∧
    ∀ results others : List ObjectResult, store before (.batch b.objects) = some (.ok results) →
      others.map (·.errors) = results.map (·.errors) →
      let run := b.ingest.run store before
      let run' := b.ingest.run (store.answering before (.batch b.objects) (.ok others)) before
      run'.questions = run.questions ∧
      ((∀ r ∈ results, r.errors = []) → run' = run) ∧
      ∀ (i : Nat) (r r' : ObjectResult), results[i]? = some r → others[i]? = some r' →
        r.errors ≠ [] → (∀ x ∈ results.take i, x.errors = []) →
          run = b.refusedRun r ∧ run' = b.refusedRun r' := by
  refine ⟨fun s succeeded => ?_, fun results others write same => ?_⟩
  · obtain ⟨results, write, taken, rfl⟩ := acknowledge_of_result nonempty succeeded
    exact ⟨results, write, forall₂_of_acknowledge taken, b.map_id_objects.symm⟩
  intro run run'
  have answered : store.answering before (.batch b.objects) (.ok others) before (.batch b.objects) =
      some (.ok others) := Partner.answering_self ..
  have clean (none_refused : ∀ r ∈ results, r.errors = []) : run' = run :=
    run_ingest_answering nonempty write (verdict_of_same_errors same none_refused _)
  have refused (i : Nat) (r r' : ObjectResult) (here : results[i]? = some r)
      (there : others[i]? = some r') (errors : r.errors ≠ [])
      (earlier : ∀ x ∈ results.take i, x.errors = []) :
      run = b.refusedRun r ∧ run' = b.refusedRun r' :=
    ⟨run_ingest_refused nonempty write
        (ObjectResult.firstRefused?_eq_some_iff_place.mpr ⟨i, here, errors, earlier⟩),
      run_ingest_refused nonempty answered
        (firstRefused?_of_same_errors same here there errors earlier)⟩
  refine ⟨?_, clean, refused⟩
  cases first : ObjectResult.firstRefused? results with
  | none => rw [clean (ObjectResult.firstRefused?_eq_none_iff.mp first)]
  | some r =>
    obtain ⟨i, here, errors, earlier⟩ := ObjectResult.firstRefused?_eq_some_iff_place.mp first
    have within : i < others.length :=
      length_of_same_errors same ▸ (List.getElem?_eq_some_iff.mp here).1
    obtain ⟨run_eq, run'_eq⟩ := refused i r _ here (List.getElem?_eq_getElem within) errors earlier
    rw [run_eq, run'_eq]
    rfl

/-- A store that acknowledges the second of two objects by the identity of the first, and a store
that refuses it by that identity. -/
theorem acknowledged_in_place_repeated :
    let b : Batch Payload := ⟨[.new "a" "call", .new "b" "name"], []⟩
    let store (results : List ObjectResult) : Store := fun
      | _, .batch _ => some (.ok results)
      | _, .reference .. => none
    let repeated : Store := store [.ok "a", .ok "a"]
    let refusing : Store := store [.ok "a", .failed "a" "no"]
    b.nodes ≠ [] ∧ (b.ingest.run repeated []).result = some (.ok (.all b)) ∧
      List.Forall₂ (fun (_ : StoreObject) (r : ObjectResult) => r.errors = []) b.objects
        [.ok "a", .ok "a"] ∧
      b.ingest.run (repeated.answering [] (.batch b.objects) (.ok [.ok "b", .ok ""])) [] =
        b.ingest.run repeated [] ∧
      b.ingest.run refusing [] = b.refusedRun (.failed "a" "no") ∧
      b.ingest.run (refusing.answering [] (.batch b.objects) (.ok [.ok "", .failed "c" "no"])) [] =
        b.refusedRun (.failed "c" "no") := by
  intro b store repeated refusing
  have nonempty : b.nodes ≠ [] := by simp [b]
  have succeeded : (b.ingest.run repeated []).result = some (.ok (.all b)) := rfl
  obtain ⟨succeeds, others⟩ := acknowledged_in_place repeated [] b nonempty
  obtain ⟨results, write, places, -⟩ := succeeds _ succeeded
  obtain rfl : results = [.ok "a", .ok "a"] := (Except.ok.inj (Option.some.inj write)).symm
  obtain ⟨-, taken, -⟩ := others [.ok "a", .ok "a"] [.ok "b", .ok ""] rfl rfl
  obtain ⟨-, others'⟩ := acknowledged_in_place refusing [] b nonempty
  obtain ⟨-, -, refused⟩ := others' [.ok "a", .failed "a" "no"] [.ok "", .failed "c" "no"] rfl rfl
  obtain ⟨run, run'⟩ := refused 1 _ _ rfl rfl (by simp [ObjectResult.failed])
    (by simp [ObjectResult.ok])
  exact ⟨nonempty, succeeded, places, taken (by simp [ObjectResult.ok]), run, run'⟩

/-- The second identity is reported although no result carries it. -/
theorem reports_other_than_acknowledged :
    let b : Batch Payload := ⟨[.new "a" "call", .new "b" "name"], []⟩
    let results : List ObjectResult := [⟨"a", []⟩, ⟨"a", []⟩]
    let store : Store := fun
      | _, .batch _ => some (.ok results)
      | _, .reference .. => none
    ∃ s, (b.ingest.run store []).result = some (.ok s) ∧ "b" ∈ s.nodeIds ∧
      (∀ r ∈ results, r.id ≠ "b") ∧
      ¬ ∀ i : Nat, (results[i]?).map (·.id) = (b.objects[i]?).map (·.id) := by
  intro b results store
  refine ⟨.all b, rfl, by decide, by decide, fun same => ?_⟩
  exact absurd (same 1) (by decide)

end Batch

end GraphIngest
