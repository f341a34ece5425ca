import GraphIngest.Proofs.Dialogue.Pool
import GraphIngest.Proofs.Ingest.Calls

/-!
# Ingests side by side

Ingests share a store and nothing else. Each of them makes the calls that it would make alone, so
the order that holds within one ingest holds among the calls of all.

## Main statements

* `Batch.calls_of_walk`: the calls of one ingest, wherever it stands.
* `Batch.acknowledged_of_walk`: relationships come after the acknowledgement of the nodes.
* `Batch.ingests_isolated`: so it is among any number of ingests.
-/

namespace GraphIngest

open Dialogue

/-- What can be seen of an ingest. -/
abbrev IngestAct := Act StoreCall StoreCall.Answer Event

/-- Where an ingest stands. -/
abbrev IngestPlace := Dialogue.Place StoreCall StoreCall.Answer Event (Except Error Summary)

namespace Batch

variable {b : Batch Payload} {acts : List IngestAct} {p : IngestPlace}

/-- An ingest makes its calls as they are permitted after the answers that it got. -/
theorem calls_of_walk (w : Walk b.ingest acts p) : Act.questions acts = [] ∨
    b.nodes ≠ [] ∧ ∃ made, Permitted (giving (Act.answers acts)) [] b made ∧
      Act.questions acts = .batch b.objects :: made.map Relationship.call := by
  have beginning := w.isPrefix (gives_giving _ _)
  by_cases empty : b.nodes = []
  · exact .inl (List.prefix_nil.mp (by simpa [ingest_of_empty empty] using beginning))
  obtain ⟨all, permitted, calls⟩ := exists_made (giving (Act.answers acts)) [] empty
  rw [calls, List.prefix_cons_iff] at beginning
  obtain nothing | ⟨asked, split, sub⟩ := beginning
  · exact .inl nothing
  · obtain ⟨made, fewer, rfl⟩ := List.prefix_map_iff.mp sub
    exact .inr ⟨empty, made, permitted.of_prefix fewer, split⟩

/-- Before an ingest asks for a relationship, its own write was acknowledged. -/
theorem acknowledged_of_walk {source property targetClass target : String}
    (w : Walk b.ingest (acts ++ [.asked (.reference source property targetClass target)]) p) :
    ∃ results, .answered (.batch b.objects) (.ok results) ∈ acts ∧
      ObjectResult.Acknowledge b.nodes.length results := by
  obtain nothing | ⟨-, made, permitted, calls⟩ := calls_of_walk w
  · simp at nothing
  have some_made : made ≠ [] := by
    rintro rfl
    have last := congrArg List.getLast? calls
    simp at last
  obtain ⟨results, answer, taken⟩ := permitted.acknowledged some_made
  have among := mem_of_giving answer
  simp only [Act.answers_append, Act.shown_asked, List.append_nil] at among
  exact ⟨results, Act.mem_of_mem_answers among, taken⟩

/-- Any number of ingests share a store, take their steps in any order, get any answers, and may be
given up wherever they wait. What the store is asked is a shuffle of what each ingest asks. Each of
them asks, tells and returns what it would alone with a store that gives it the same answers: its
own write, and its own relationships in their order, after its own write was acknowledged. So what
the other ingests are, and what becomes of them, makes no difference to it. -/
theorem ingests_isolated {ι : Type} [DecidableEq ι] (batches : ι → Batch Payload)
    {seen : List (ι × IngestAct)}
    {pool : Pool ι StoreCall StoreCall.Answer Event (Except Error Summary)}
    (walk : Pool.Walk (fun i => (batches i).ingest) seen pool) :
    Shuffle (fun i => Act.questions (Pool.own i seen)) pool.log ∧
    ∀ i,
      let b := batches i
      let acts := Pool.own i seen
      let asked := Act.questions acts
      (∃ store : Store, Gives store asked (Act.answers acts)) ∧
      (∀ store : Store, Gives store asked (Act.answers acts) →
        asked <+: (b.ingest.run store []).questions ∧
        ((pool.places i).Rests →
          b.ingest.run store [] = ⟨asked, Act.events acts, (pool.places i).outcome⟩)) ∧
      (asked = [] ∨ ∃ made, made <+: b.relationships ∧
        asked = .batch b.objects :: made.map Relationship.call) ∧
      (∀ earlier later source property targetClass target,
        seen = earlier ++ (i, .asked (.reference source property targetClass target)) :: later →
        ∃ results : List ObjectResult,
          (i, .answered (.batch b.objects) (.ok results)) ∈ earlier ∧
          results.length = b.nodes.length ∧ ∀ r ∈ results, r.errors = []) ∧
      ∀ {κ : Type} [DecidableEq κ] (others : κ → Batch Payload) (j : κ)
        (seen' : List (κ × IngestAct))
        (pool' : Pool κ StoreCall StoreCall.Answer Event (Except Error Summary)),
        Pool.Walk (fun j => (others j).ingest) seen' pool' → others j = b →
        Act.answers (Pool.own j seen') = Act.answers acts →
        (pool.places i).Rests → (pool'.places j).Rests →
        Act.questions (Pool.own j seen') = asked ∧
        Act.events (Pool.own j seen') = Act.events acts ∧
        (pool'.places j).outcome = (pool.places i).outcome := by
  refine ⟨walk.shuffle, fun i => ?_⟩
  intro b acts asked
  have alone : Dialogue.Walk b.ingest acts (pool.places i) := (Pool.walk_iff.mp walk).2 i
  refine ⟨⟨_, gives_giving _ _⟩, ?_, ?_, ?_, ?_⟩
  · exact fun store g => ⟨alone.isPrefix g, fun rests => alone.run_eq rests g⟩
  · obtain nothing | ⟨-, made, permitted, calls⟩ := calls_of_walk alone
    · exact .inl nothing
    · exact .inr ⟨made, permitted.listed, calls⟩
  · rintro earlier later source property targetClass target rfl
    have whole : acts = Pool.own i earlier ++
        [.asked (.reference source property targetClass target)] ++ Pool.own i later := by
      simp [acts]
    obtain ⟨p, upTo⟩ := (whole ▸ alone).of_append
    obtain ⟨results, among, taken⟩ := acknowledged_of_walk upTo
    exact ⟨results, Pool.mem_of_mem_own among, taken.1, taken.2⟩
  · intro κ _ others j seen' pool' walk' same answers rests rests'
    have alone' : Dialogue.Walk b.ingest (Pool.own j seen') (pool'.places j) :=
      same ▸ (Pool.walk_iff.mp walk').2 j
    have first := alone.run_eq rests (gives_giving _ _)
    have second := alone'.run_eq rests' (gives_giving _ _)
    rw [answers, first] at second
    obtain ⟨questions, events, outcome⟩ := Transcript.mk.inj second
    exact ⟨questions.symm, events.symm, outcome.symm⟩

/-- Two ingests: the one with the relationship creates it, although the other, which wrote its node
in between, is given up. -/
theorem ingests_isolated_dropped :
    let batches : Bool → Batch Payload := fun
      | true => ⟨[.new "a" "call"], [⟨"a", "a", "calls"⟩]⟩
      | false => ⟨[.new "b" "name"], [⟨"b", "b", "calls"⟩]⟩
    let seen : List (Bool × IngestAct) := [
      (true, .told (.received 1 1)),
      (false, .told (.received 1 1)),
      (true, .asked (.batch (batches true).objects)),
      (false, .asked (.batch (batches false).objects)),
      (true, .answered (.batch (batches true).objects) (.ok [.ok "a"])),
      (false, .dropped),
      (true, .asked (.reference "a" "calls" "ASTNode" "a"))]
    ∃ pool, Pool.Walk (fun i => (batches i).ingest) seen pool ∧
      pool.log = [.batch (batches true).objects, .batch (batches false).objects,
        .reference "a" "calls" "ASTNode" "a"] ∧
      Shuffle (fun i => Act.questions (Pool.own i seen)) pool.log := by
  intro batches seen
  have creates : ∃ p, Dialogue.Walk (batches true).ingest (Pool.own true seen) p :=
    ⟨_, (((Walk.start.step (.tell _ _)).step (.ask _ _)).step (.answer _ _ _)).step (.ask _ _)⟩
  have dropped : ∃ p, Dialogue.Walk (batches false).ingest (Pool.own false seen) p :=
    ⟨_, ((Walk.start.step (.tell _ _)).step (.ask _ _)).step (.drop _ _)⟩
  have each : ∀ i, ∃ p, Dialogue.Walk (batches i).ingest (Pool.own i seen) p :=
    Bool.forall_bool.mpr ⟨dropped, creates⟩
  obtain ⟨pool, walk⟩ := Pool.exists_walk each
  obtain ⟨logged, -⟩ := Pool.walk_iff.mp walk
  obtain ⟨shuffled, -⟩ := ingests_isolated batches walk
  exact ⟨pool, walk, logged, shuffled⟩

end Batch

end GraphIngest
