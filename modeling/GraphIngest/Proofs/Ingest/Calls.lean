import GraphIngest.Proofs.Dialogue.Course
import GraphIngest.Proofs.Ingest.Phases

/-!
# The calls of an ingest

An ingest makes its calls in two phases, and each phase depends on the answers in the one before.
This is said of every point at which an ingest may rest or be given up, whatever the store answers.

## Main statements

* `Batch.exists_made`: the calls of a whole run.
* `Batch.course_two_phase`: the calls up to any point.
-/

namespace GraphIngest

open Dialogue

namespace Batch

variable {store : Store} {before : List StoreCall} {b : Batch Payload}

/-- Whether relationships may be made after a batched write: if there are any, then the store took
all objects, and all relationships but the last were created in their turn. -/
structure Permitted (store : Store) (before : List StoreCall) (b : Batch Payload)
    (made : List Relationship) : Prop where
  listed : made <+: b.relationships
  acknowledged : made ≠ [] → ∃ results, store before (.batch b.objects) = some (.ok results) ∧
    ObjectResult.Acknowledge b.nodes.length results
  created : ∀ earlier (r : Relationship), earlier ++ [r] <+: made → made ≠ earlier ++ [r] →
    store (before ++ .batch b.objects :: earlier.map Relationship.call) r.call = some (.ok ())

/-- What is permitted is permitted step by step. -/
theorem Permitted.of_prefix {made fewer : List Relationship}
    (h : Permitted store before b made) (hp : fewer <+: made) : Permitted store before b fewer where
  listed := hp.trans h.listed
  acknowledged ne := h.acknowledged fun empty => ne (List.prefix_nil.mp (empty ▸ hp))
  created earlier r sub ne := by
    refine h.created earlier r (sub.trans hp) ?_
    rintro rfl
    exact ne (sub.eq_of_length_le hp.length_le).symm

/-- Relationships that were all created, and perhaps one more. -/
theorem Permitted.of_created {results : List ObjectResult} {made : List Relationship}
    (write : store before (.batch b.objects) = some (.ok results))
    (taken : ObjectResult.Acknowledge b.nodes.length results)
    (created : Created store (before ++ [.batch b.objects]) made) (more : List Relationship)
    (one : more.length ≤ 1) (listed : made ++ more <+: b.relationships) :
    Permitted store before b (made ++ more) where
  listed := listed
  acknowledged _ := ⟨results, write, taken⟩
  created earlier r sub ne := by
    obtain ⟨later, whole⟩ := sub
    have later_ne : later ≠ [] := by
      rintro rfl
      exact ne (by simpa using whole.symm)
    have inside : earlier ++ [r] <+: made := by
      refine List.prefix_of_prefix_length_le ⟨later, whole⟩ (List.prefix_append made more) ?_
      have count := congrArg List.length whole
      have := List.length_pos_iff.mpr later_ne
      simp only [List.length_append] at count ⊢
      omega
    obtain ⟨rest, rfl⟩ := inside
    simpa using created earlier r rest (by simp)

/-- The calls of a whole run: the write, and then relationships as they are permitted. -/
theorem exists_made (store : Store) (before : List StoreCall) {b : Batch Payload}
    (h : b.nodes ≠ []) : ∃ made, Permitted store before b made ∧
    (b.ingest.run store before).questions = .batch b.objects :: made.map Relationship.call := by
  have none_made : Permitted store before b [] :=
    ⟨List.nil_prefix, fun ne => absurd rfl ne, fun earlier r sub => by simp at sub⟩
  cases write : store before (.batch b.objects) with
  | none => exact ⟨[], none_made, by simp [run_ingest_unanswered h write]⟩
  | some a =>
    rw [run_ingest_answered h write]
    cases verdict_eq : (verdict b.nodes.length a).2 with
    | error e => exact ⟨[], none_made, by simp [proceed]⟩
    | ok =>
      obtain ⟨results, rfl, taken⟩ := verdict_snd_eq_ok_iff.mp verdict_eq
      rw [run_proceed_ok]
      rcases run_createReferences_cases store (before ++ [.batch b.objects]) b.relationships with
        ⟨created, run⟩ | ⟨made, r, rest, split, created, ⟨-, run⟩ | ⟨e, -, run⟩⟩
      · refine ⟨b.relationships, ?_, by simp [run, Transcript.andThen]⟩
        simpa using Permitted.of_created write taken created [] (by simp) (by simp)
      all_goals
        refine ⟨made ++ [r], ?_, by simp [run, Transcript.andThen]⟩
        exact Permitted.of_created write taken created [r] (by simp) ⟨rest, by simp [split]⟩

/-- Wherever an ingest rests or is given up, it made no call if there are no nodes. Otherwise it
wrote one object for each node, in one call, and then asked for some of the first relationships in
their order: for any at all only after the store took every object, and for the next only after the
one before was created. These are the first calls of the run that is not given up. -/
theorem course_two_phase (store : Store) (before : List StoreCall) (b : Batch Payload)
    {asked : List StoreCall}
    {p : Dialogue.Place StoreCall StoreCall.Answer Event (Except Error Summary)}
    (course : Course store before b.ingest asked p) (rests : p.Rests) :
    let write : StoreCall := .batch (b.nodes.map fun n => n.rendition.object)
    let create (r : Relationship) : StoreCall := .reference r.source r.type "ASTNode" r.target
    (b.nodes = [] → asked = []) ∧
    (b.nodes ≠ [] → ∃ made, made <+: b.relationships ∧ asked = write :: made.map create ∧
      (made ≠ [] → ∃ results : List ObjectResult, store before write = some (.ok results) ∧
        results.length = b.nodes.length ∧ ∀ r ∈ results, r.errors = []) ∧
      ∀ earlier r, earlier ++ [r] <+: made → made ≠ earlier ++ [r] →
        store (before ++ write :: earlier.map create) (create r) = some (.ok ())) ∧
    asked <+: (b.ingest.run store before).questions := by
  have same : (b.nodes.map fun n => n.rendition.object) = b.objects := by
    simp [objects, renditions]
  generalize (b.nodes.map fun n => n.rendition.object) = written at same ⊢
  subst same
  intro write create
  refine ⟨fun empty => ?_, fun nonempty => ?_, course.isPrefix⟩
  · have nothing : (b.ingest.run store before).questions = [] := by simp [ingest_of_empty empty]
    exact List.prefix_nil.mp (nothing ▸ course.isPrefix)
  · obtain ⟨all, permitted, questions⟩ := exists_made store before nonempty
    have asked_ne : asked ≠ [] := course.ne_nil_of_rests rests (by simp [questions])
    obtain ⟨first, calls, rfl⟩ := List.exists_cons_of_ne_nil asked_ne
    obtain ⟨rfl, sub⟩ := List.cons_prefix_cons.mp (questions ▸ course.isPrefix)
    obtain ⟨made, fewer, rfl⟩ := List.prefix_map_iff.mp sub
    have made_permitted := permitted.of_prefix fewer
    exact ⟨made, made_permitted.listed, rfl, made_permitted.acknowledged, made_permitted.created⟩

/-- The second of three relationships gets no answer, and the ingest is given up there. -/
theorem course_two_phase_dropped :
    let b : Batch Payload := ⟨[.new "a" "call", .new "b" "name"],
      [⟨"a", "b", "calls"⟩, ⟨"b", "a", "usedBy"⟩, ⟨"a", "a", "calls"⟩]⟩
    let store : Store := fun
      | _, .batch objects => some (.ok (objects.map fun o => .ok o.id))
      | asked, .reference .. => if asked.length = 1 then some (.ok ()) else none
    let asked : List StoreCall := [.batch b.objects, .reference "a" "calls" "ASTNode" "b",
      .reference "b" "usedBy" "ASTNode" "a"]
    Course store [] b.ingest asked .dropped ∧ asked <+: (b.ingest.run store []).questions ∧
      ∃ made, made <+: b.relationships ∧
        asked = .batch b.objects :: made.map Relationship.call := by
  intro b store asked
  have course : Course store [] b.ingest asked .dropped := by
    obtain ⟨q, next, waiting⟩ : ∃ q next, Course store [] b.ingest asked (.waiting q next) :=
      exists_waiting_of_prefix (by simp [asked]) ⟨[], rfl⟩
    exact .dropped waiting (.drop q next)
  obtain ⟨-, phases, beginning⟩ := course_two_phase store [] b course trivial
  obtain ⟨made, listed, calls, -, -⟩ := phases (by simp [b])
  exact ⟨course, beginning, made, listed, calls⟩

end Batch

end GraphIngest
