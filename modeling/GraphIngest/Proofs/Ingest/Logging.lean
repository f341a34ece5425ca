import GraphIngest.Proofs.Dialogue.Laws
import GraphIngest.Proofs.Dialogue.Walk
import GraphIngest.Proofs.Ingest.Phases

/-!
# What is told of an ingest

An ingest warns of annotations that were left out, before it calls the store. If it fails it tells
why, with one exception: nothing is told of a store that has too few or too many results.

## Main definitions

* `Node.warning?`: what is told of annotations that cannot be written.
* `Batch.Miscounted`: the failure of which nothing is told.
* `Batch.told_cases`: what is told of an ingest, and how it ends.
* `Batch.failure_told_unless_miscounted`: a failure is told of once, with that exception.
-/

namespace GraphIngest

open Dialogue

/-- The events of some level. -/
def Event.ofLevel (l : Level) (es : List Event) : List Event := es.filter (·.level = l)

theorem Event.ofLevel_append (l : Level) (es more : List Event) :
    ofLevel l (es ++ more) = ofLevel l es ++ ofLevel l more := List.filter_append ..

/-- The warning about a node whose annotations cannot be written. -/
def Node.warning? (n : Node Payload) : Option Event :=
  match n.annotations.map Payload.render with
  | some (.error reason) => some (.omitted ⟨n.id, reason⟩)
  | some (.ok _) | none => none

theorem Node.warning?_eq (n : Node Payload) : n.warning? = n.rendition.omission.map .omitted := by
  unfold warning? rendition
  cases n.annotations with
  | none => rfl
  | some p => cases h : p.render <;> simp [h]

namespace Batch

variable {store : Store} {before : List StoreCall} {b : Batch Payload}

/-- The warnings about the nodes in their order. -/
theorem filterMap_warning? (b : Batch Payload) :
    b.nodes.filterMap Node.warning? = b.omissions.map .omitted := by
  simp only [omissions, renditions, List.map_filterMap, List.filterMap_map, Function.comp_def]
  exact congrArg (List.filterMap · b.nodes) (funext Node.warning?_eq)

/-- The store refuses no object, but has too few or too many results. -/
def Miscounted (store : Store) (before : List StoreCall) (b : Batch Payload) : Prop :=
  ∃ results : List ObjectResult, store before (.batch b.objects) = some (.ok results) ∧
    (∀ r ∈ results, r.errors = []) ∧ results.length ≠ b.nodes.length

/-! ## The order of events and calls -/

/-- What is told of the answer to the batched write is told as a failure. -/
theorem level_of_mem_verdict {count : Nat} {a : Except Error (List ObjectResult)} {e : Event}
    (told : e ∈ (verdict count a).1) : e.level = .error := by
  cases a with
  | error failure =>
    obtain rfl := List.mem_singleton.mp told
    rfl
  | ok results =>
    rcases results_cases count results with ⟨r, first⟩ | ⟨clean, miscounted⟩ | taken
    · rw [verdict_of_refused first] at told
      obtain rfl := List.mem_singleton.mp told
      rfl
    · simp [verdict_of_miscounted clean miscounted] at told
    · simp [verdict_of_acknowledge taken] at told

/-- After the verdict nobody is warned. -/
theorem within_proceed (b : Batch Payload) (outcome : Except Error Unit) :
    (b.proceed outcome).Within (fun _ => True) (·.level ≠ .warn) := by
  have loop (rs : List Relationship) :
      (createReferences rs).Within (fun _ => True) (·.level ≠ .warn) := by
    induction rs with
    | nil => trivial
    | cons r rest ih =>
      rw [createReferences_cons]
      refine ⟨trivial, fun a => ?_⟩
      cases a with
      | error e => exact ⟨by simp [Event.level], trivial⟩
      | ok => exact ih
  cases outcome with
  | error e => trivial
  | ok =>
    refine (loop b.relationships).bind fun outcome => ?_
    cases outcome with
    | error e => trivial
    | ok => exact ⟨by simp [Event.level], trivial⟩

/-- Without nodes nothing is told but the receipt. -/
theorem acts_ingest_of_empty (empty : b.nodes = []) :
    b.ingest.acts store before = [.told (.received 0 b.relationships.length)] ∧
      (b.ingest.run store before).result = some (.ok .nothing) := by
  rw [ingest_of_empty empty, empty]
  exact ⟨rfl, rfl⟩

/-- The warnings among the events that come before a call, and those after it. -/
theorem ofLevel_warn_opening (b : Batch Payload) (nodes relationships : Nat) (call : StoreCall)
    (later : List (Act StoreCall StoreCall.Answer Event)) :
    Event.ofLevel .warn (Act.events (.told (.received nodes relationships) ::
      ((b.nodes.filterMap Node.warning?).map .told ++ .asked call :: later))) =
      b.nodes.filterMap Node.warning? ++ Event.ofLevel .warn (Act.events later) := by
  have warnings : Event.ofLevel .warn (b.nodes.filterMap Node.warning?) =
      b.nodes.filterMap Node.warning? := by
    rw [filterMap_warning?]
    exact List.filter_eq_self.mpr (by simp [Event.level])
  calc Event.ofLevel .warn (Act.events (.told (.received nodes relationships) ::
        ((b.nodes.filterMap Node.warning?).map .told ++ .asked call :: later)))
    _ = Event.ofLevel .warn (Act.events ((b.nodes.filterMap Node.warning?).map .told ++
          .asked call :: later)) := rfl
    _ = Event.ofLevel .warn (b.nodes.filterMap Node.warning? ++ Act.events later) := by
      rw [Act.events_append, Act.events_map_told]
      rfl
    _ = b.nodes.filterMap Node.warning? ++ Event.ofLevel .warn (Act.events later) := by
      rw [Event.ofLevel_append, warnings]

/-- All warnings come before the first call, and nothing else does but the receipt. -/
theorem acts_ingest (nonempty : b.nodes ≠ []) : ∃ later, b.ingest.acts store before =
      .told (.received b.nodes.length b.relationships.length) ::
        ((b.nodes.filterMap Node.warning?).map .told ++ .asked (.batch b.objects) :: later) ∧
    Event.ofLevel .warn (Act.events later) = [] := by
  rw [ingest_of_nonempty nonempty, filterMap_warning?, acts, acts_bind_events]
  cases write : store before (.batch b.objects) with
  | none => exact ⟨[], by rw [acts_ask_unanswered write], rfl⟩
  | some a =>
    rw [acts_ask_answered write, acts_bind_events]
    refine ⟨_, rfl, List.filter_eq_nil_iff.mpr fun e told => ?_⟩
    suffices other : e.level ≠ .warn by simpa using other
    replace told : e ∈ Act.events ((verdict b.nodes.length a).1.map .told ++
      (b.proceed (verdict b.nodes.length a).2).acts store (before ++ [.batch b.objects])) := told
    rw [Act.events_append, Act.events_map_told, events_acts, List.mem_append] at told
    rcases told with judged | proceeded
    · simp [level_of_mem_verdict judged]
    · exact ((b.within_proceed _).run store _).2 e proceeded

/-! ## How an ingest ends -/

/-- What is told as a failure, once the store has answered the batched write. -/
theorem ofLevel_error_ingest (nonempty : b.nodes ≠ []) {a : Except Error (List ObjectResult)}
    (write : store before (.batch b.objects) = some a) :
    Event.ofLevel .error (b.ingest.run store before).events = (verdict b.nodes.length a).1 ++
      Event.ofLevel .error ((b.proceed (verdict b.nodes.length a).2).run store
        (before ++ [.batch b.objects])).events := by
  have warnings : Event.ofLevel .error (b.omissions.map .omitted) = [] := by
    simp [Event.ofLevel, Event.level]
  have judged : Event.ofLevel .error (verdict b.nodes.length a).1 = (verdict b.nodes.length a).1 :=
    List.filter_eq_self.mpr fun e told => by simp [level_of_mem_verdict told]
  rw [run_ingest_answered nonempty write]
  dsimp only
  rw [← List.singleton_append, Event.ofLevel_append, Event.ofLevel_append, Event.ofLevel_append,
    warnings, judged]
  rfl

/-- An ingest succeeds without a complaint, or it fails and complains once, or the store has too few
or too many results. -/
theorem told_cases (before : List StoreCall) (nonempty : b.nodes ≠ [])
    (finishes : ∀ asked call, (store asked call).isSome) :
    let t := b.ingest.run store before
    let complaints := Event.ofLevel .error t.events
    (∃ s, t.result = some (.ok s) ∧ complaints = []) ∨
    (∃ e complaint, t.result = some (.error e) ∧ complaints = [complaint] ∧
      ¬Miscounted store before b) ∨
    ∃ e, t.result = some (.error e) ∧ complaints = [] ∧ Miscounted store before b := by
  intro t complaints
  obtain ⟨a, write⟩ := Option.isSome_iff_exists.mp (finishes before (.batch b.objects))
  have told : complaints = _ := ofLevel_error_ingest nonempty write
  have result : t.result = _ := congrArg (·.result) (run_ingest_answered nonempty write)
  cases a with
  | error e =>
    refine .inr (.inl ⟨_, _, result, told, ?_⟩)
    rintro ⟨results, answered, -⟩
    cases write.symm.trans answered
  | ok results =>
    rcases results_cases b.nodes.length results with ⟨r, first⟩ | ⟨clean, miscounted⟩ | taken
    · rw [verdict_of_refused first] at told result
      refine .inr (.inl ⟨_, _, result, told, ?_⟩)
      rintro ⟨results', answered, clean, -⟩
      obtain rfl := Except.ok.inj (Option.some.inj (write.symm.trans answered))
      rw [ObjectResult.firstRefused?_eq_none_iff.mpr clean] at first
      cases first
    · rw [verdict_of_miscounted clean miscounted] at told result
      exact .inr (.inr ⟨_, result, told, results, write, clean, miscounted⟩)
    · rw [verdict_of_acknowledge taken, run_proceed_ok] at told result
      have counted : ¬Miscounted store before b := by
        rintro ⟨results', answered, -, miscounted⟩
        obtain rfl := Except.ok.inj (Option.some.inj (write.symm.trans answered))
        exact miscounted taken.1
      rcases run_createReferences_cases store (before ++ [.batch b.objects]) b.relationships with
        ⟨-, loop⟩ | ⟨made, r, rest, -, -, ⟨silent, -⟩ | ⟨e, -, loop⟩⟩
      · rw [loop] at told result
        exact .inl ⟨_, result, told⟩
      · exact absurd silent (Option.isSome_iff_ne_none.mp (finishes _ r.call))
      · rw [loop] at told result
        exact .inr (.inl ⟨_, _, result, told, counted⟩)

/-- An ingest tells what it received, then warns once of each node whose annotations cannot be
written, in the order of the nodes, and only then calls the store; it warns of nothing else. If all
calls are answered, then it complains of nothing if it succeeds. If it fails it complains exactly
once, unless it fails because no object was refused and the store has too few or too many results:
then it does not complain at all. -/
theorem failure_told_unless_miscounted (store : Store) (before : List StoreCall)
    (b : Batch Payload) (finishes : ∀ asked call, (store asked call).isSome) :
    let acts := b.ingest.acts store before
    let result := (b.ingest.run store before).result
    let warnings := b.nodes.filterMap Node.warning?
    let complaints := Event.ofLevel .error (Act.events acts)
    (∃ p, Walk b.ingest acts p ∧ p.outcome = result ∧ ∃ outcome, result = some outcome) ∧
    Event.ofLevel .warn (Act.events acts) = warnings ∧
    (b.nodes = [] → acts = [.told (.received 0 b.relationships.length)]) ∧
    (b.nodes ≠ [] → ∃ later, acts = .told (.received b.nodes.length b.relationships.length) ::
        (warnings.map .told ++ .asked (.batch b.objects) :: later) ∧
      Event.ofLevel .warn (Act.events later) = []) ∧
    (∀ s, result = some (.ok s) → complaints = []) ∧
    (∀ e, result = some (.error e) →
      ((∃ complaint, complaints = [complaint]) ↔ ¬Miscounted store before b) ∧
      (Miscounted store before b → complaints = [])) := by
  intro acts result warnings complaints
  obtain ⟨p, walk, -, outcome⟩ := exists_walk_acts store before b.ingest
  have told : complaints = Event.ofLevel .error (b.ingest.run store before).events :=
    congrArg (Event.ofLevel .error) (events_acts store before b.ingest)
  by_cases empty : b.nodes = []
  · obtain ⟨seen, ends⟩ : acts = _ ∧ _ := acts_ingest_of_empty empty
    have silent : complaints = [] :=
      congrArg (fun acts => Event.ofLevel .error (Act.events acts)) seen
    have warned : Event.ofLevel .warn (Act.events acts) = warnings := by
      rw [seen, show warnings = [] by simp [warnings, empty]]
      rfl
    exact ⟨⟨p, walk, outcome, _, ends⟩, warned, fun _ => seen,
      fun nonempty => absurd empty nonempty, fun _ _ => silent,
      fun e failed => by cases ends.symm.trans failed⟩
  · obtain ⟨later, seen, quiet⟩ : ∃ later, acts = _ ∧ _ := acts_ingest empty
    have warned : Event.ofLevel .warn (Act.events acts) = warnings := by
      rw [seen, ofLevel_warn_opening, quiet, List.append_nil]
    obtain ⟨s, ends, silent⟩ | ⟨e, complaint, ends, once, counted⟩ |
      ⟨e, ends, silent, miscounted⟩ := told_cases before empty finishes
    all_goals
      refine ⟨⟨p, walk, outcome, _, ends⟩, warned, fun none => absurd none empty,
        fun _ => ⟨later, seen, quiet⟩, fun s succeeded => ?_, fun e' failed => ?_⟩
    · exact told.trans silent
    · cases ends.symm.trans failed
    · cases ends.symm.trans succeeded
    · exact ⟨⟨fun _ => counted, fun _ => ⟨complaint, told.trans once⟩⟩,
        fun miscounted => absurd miscounted counted⟩
    · cases ends.symm.trans succeeded
    · refine ⟨⟨?_, fun counted => absurd miscounted counted⟩, fun _ => told.trans silent⟩
      rintro ⟨complaint, once⟩
      cases once.symm.trans (told.trans silent)

/-- The reference fails after a warning: one complaint. -/
theorem failure_told_unless_miscounted_refusal :
    let b : Batch Payload := ⟨[(Node.new "a" "call" : Node Payload).withAnnotations (.refusal "no"),
      .new "b" "name"], [⟨"a", "b", "calls"⟩]⟩
    let store : Store := fun
      | _, .batch _ => some (.ok [.ok "a", .ok "b"])
      | _, .reference .. => some (.error (.write "full"))
    (∀ asked call, (store asked call).isSome) ∧
      Event.ofLevel .warn (Act.events (b.ingest.acts store [])) = [.omitted ⟨"a", "no"⟩] ∧
      ∃ complaint, Event.ofLevel .error (Act.events (b.ingest.acts store [])) = [complaint] := by
  intro b store
  have finishes : ∀ asked call, (store asked call).isSome := by
    intro asked call
    cases call <;> rfl
  obtain ⟨-, warned, -, -, -, failed⟩ := failure_told_unless_miscounted store [] b finishes
  refine ⟨finishes, warned, (failed _ rfl).1.mpr ?_⟩
  rintro ⟨results, answered, -, miscounted⟩
  obtain rfl : [.ok "a", .ok "b"] = results := Except.ok.inj (Option.some.inj answered)
  exact miscounted rfl

/-- A store that acknowledges one of two objects: the ingest fails, and complains of nothing. -/
theorem miscount_not_told :
    let b : Batch Payload := ⟨[.new "a" "call", .new "b" "name"], []⟩
    let store : Store := fun
      | _, .batch _ => some (.ok [.ok "a"])
      | _, .reference .. => some (.ok ())
    (∀ asked call, (store asked call).isSome) ∧
      (b.ingest.run store []).result =
        some (.error (.nodeWrite "store acknowledged 1 of 2 objects")) ∧
      (b.ingest.run store []).events = [.received 2 0] ∧
      ¬ ∃ complaint, Event.ofLevel .error (b.ingest.run store []).events = [complaint] := by
  intro b store
  have told : "store acknowledged " ++ toString 1 ++ " of " ++ toString 2 ++ " objects" =
      "store acknowledged 1 of 2 objects" := by decide
  refine ⟨fun asked call => ?_, by rw [← told]; rfl, rfl, ?_⟩
  · cases call <;> rfl
  · rintro ⟨complaint, once⟩
    cases once

end Batch

end GraphIngest
