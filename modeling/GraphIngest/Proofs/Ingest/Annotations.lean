import GraphIngest.Proofs.Dialogue.Lockstep
import GraphIngest.Proofs.Ingest.Phases

/-!
# Annotations and the graph

The annotations of a node go with its object and nowhere else. Two batches that differ in nothing
but annotations are ingested in lock step, whether or not the annotations can be written.

## Main definitions

* `Batch.SameGraph`: batches that differ in nothing but annotations.
* `StoreCall.Alike`: calls that differ in nothing but the annotations of objects.
* `Batch.ingest_lockstep`: batches of the same graph are ingested in lock step.
* `Batch.annotations_do_not_matter`: so they have the same calls, apart from annotations, and the
  same outcome.
-/

namespace GraphIngest

/-! ## Apart from annotations -/

/-- A node without its annotations. -/
def Node.bare (n : Node A) : Node A := { n with annotations := none }

/-- An object without its annotations. -/
def StoreObject.bare (o : StoreObject) : StoreObject := { o with properties.annotations := none }

theorem Node.bare_object (n : Node Payload) : n.rendition.object.bare = n.bare.toObject none := by
  unfold rendition
  split
  · rfl
  · split <;> rfl

/-- Calls that are the same apart from the annotations of objects. -/
inductive StoreCall.Alike : StoreCall → StoreCall → Prop where
  | batch {objects₁ objects₂ : List StoreObject} :
      objects₁.map StoreObject.bare = objects₂.map StoreObject.bare →
      Alike (.batch objects₁) (.batch objects₂)
  | reference (source property targetClass target : String) :
      Alike (.reference source property targetClass target)
        (.reference source property targetClass target)

/-- Whether calls of the same kind have the same answer, or both have none. -/
def StoreCall.SameAnswer : (call₁ call₂ : StoreCall) →
    Option call₁.Answer → Option call₂.Answer → Prop
  | .batch _, .batch _, a₁, a₂ => a₁ = a₂
  | .reference .., .reference .., a₁, a₂ => a₁ = a₂
  | .batch _, .reference .., _, _ | .reference .., .batch _, _, _ => True

/-- Whether an event tells that annotations were left out. -/
def Event.isOmission : Event → Bool
  | omitted _ => true
  | _ => false

/-- Annotations may differ, and what is told of them. -/
def Likeness.annotations : Likeness StoreCall StoreCall.Answer Event where
  question := StoreCall.Alike
  answer := StoreCall.SameAnswer
  aside := Event.isOmission
  refl
    | .batch _ => .batch rfl
    | .reference .. => .reference ..
  eq_of_answer {call _ _} same := by cases call <;> exact same
  isSome_eq alike same := by cases alike <;> exact congrArg Option.isSome same

namespace Batch

open Dialogue

theorem map_bare_objects (b : Batch Payload) :
    b.objects.map StoreObject.bare = b.nodes.map fun n => n.bare.toObject none := by
  simp [objects, renditions, Function.comp_def, Node.bare_object]

/-- Batches that are the same apart from the annotations of nodes. -/
structure SameGraph (b₁ b₂ : Batch A) : Prop where
  nodes : b₁.nodes.map Node.bare = b₂.nodes.map Node.bare
  relationships : b₁.relationships = b₂.relationships

namespace SameGraph

variable {b₁ b₂ : Batch Payload}

theorem map_nodes (h : SameGraph b₁ b₂) (f : Node Payload → B) (own : ∀ n, f n = f n.bare) :
    b₁.nodes.map f = b₂.nodes.map f := by
  have through (b : Batch Payload) : b.nodes.map f = (b.nodes.map Node.bare).map f := by
    simp [Function.comp_def, ← own]
  rw [through, through, h.nodes]

theorem length_nodes (h : SameGraph b₁ b₂) : b₁.nodes.length = b₂.nodes.length := by
  simpa using congrArg List.length h.nodes

theorem nodes_eq_nil_iff (h : SameGraph b₁ b₂) : b₁.nodes = [] ↔ b₂.nodes = [] := by
  rw [← List.length_eq_zero_iff, h.length_nodes, List.length_eq_zero_iff]

theorem all_eq (h : SameGraph b₁ b₂) : Summary.all b₁ = Summary.all b₂ := by
  have ids : b₁.nodeIds = b₂.nodeIds := h.map_nodes (·.id) fun _ => rfl
  unfold Summary.all
  rw [h.length_nodes, h.relationships, ids]

theorem proceed_eq (h : SameGraph b₁ b₂) : b₁.proceed = b₂.proceed := by
  have conclude : b₁.conclude = b₂.conclude := by
    funext r
    cases r <;> simp only [Batch.conclude, h.length_nodes, h.relationships, h.all_eq]
  funext r
  cases r <;> simp only [proceed, conclude, h.relationships]

theorem objects (h : SameGraph b₁ b₂) :
    b₁.objects.map StoreObject.bare = b₂.objects.map StoreObject.bare := by
  rw [map_bare_objects, map_bare_objects]
  exact h.map_nodes _ fun _ => rfl

end SameGraph

/-- Batches of the same graph are ingested in lock step. -/
theorem ingest_lockstep {b₁ b₂ : Batch Payload} (h : SameGraph b₁ b₂) :
    Lockstep Likeness.annotations b₁.ingest b₂.ingest := by
  by_cases empty : b₁.nodes = []
  · rw [ingest_of_empty empty, ingest_of_empty (h.nodes_eq_nil_iff.mp empty), h.length_nodes,
      h.relationships]
    exact .refl _
  · rw [ingest_of_nonempty empty, ingest_of_nonempty (mt h.nodes_eq_nil_iff.mpr empty),
      h.length_nodes, h.relationships, h.proceed_eq]
    have told (b : Batch Payload) : ∀ e ∈ b.omissions.map Event.omitted,
        Likeness.annotations.aside e := by
      intro e among
      obtain ⟨o, -, rfl⟩ := List.mem_map.mp among
      rfl
    refine .tell _ (.asides (told b₁) (told b₂) (.ask (.batch h.objects) fun a₁ a₂ same => ?_))
    -- From here on nothing depends on annotations.
    obtain rfl : a₁ = a₂ := Option.some.inj same
    exact .refl _

/-- Two batches have the same relationships, and the same nodes apart from annotations, whatever
these are and whether or not they can be written. If two stores answer their ingests in the same way
call by call, then both ingests come to the same result. They make the same calls: the objects that
are written are the same in their order apart from annotations, and the relationships are the same.
They also tell the same, apart from what is told of annotations. -/
theorem annotations_do_not_matter (store₁ store₂ : Store) (b₁ b₂ : Batch Payload)
    (nodes : b₁.nodes.map Node.bare = b₂.nodes.map Node.bare)
    (relationships : b₁.relationships = b₂.relationships)
    (answers : ∀ asked₁ call₁ asked₂ call₂, asked₁.length = asked₂.length →
      asked₁ ++ [call₁] <+: (b₁.ingest.run store₁ []).questions →
      asked₂ ++ [call₂] <+: (b₂.ingest.run store₂ []).questions →
      StoreCall.SameAnswer call₁ call₂ (store₁ asked₁ call₁) (store₂ asked₂ call₂)) :
    let run₁ := b₁.ingest.run store₁ []
    let run₂ := b₂.ingest.run store₂ []
    run₁.result = run₂.result ∧
    List.Forall₂ StoreCall.Alike run₁.questions run₂.questions ∧
    run₁.events.filter (!·.isOmission) = run₂.events.filter (!·.isOmission) := by
  have like : Like Likeness.annotations store₁ store₂ [] [] (b₁.ingest.run store₁ []).questions
      (b₂.ingest.run store₂ []).questions := answers
  obtain ⟨questions, events, result⟩ := (ingest_lockstep ⟨nodes, relationships⟩).run like
  exact ⟨result, questions, events⟩

/-- The annotations of one batch refuse to be written, those of the other do not. In both of them
the relationship fails. -/
theorem annotations_do_not_matter_refusal :
    let batch (annotations : Payload) : Batch Payload :=
      ⟨[(Node.new "a" "call" : Node Payload).withAnnotations annotations], [⟨"a", "a", "calls"⟩]⟩
    let b₁ := batch (.refusal "no")
    let b₂ := batch (.json (.bool true))
    let store : Store := fun
      | _, .batch _ => some (.ok [.ok "a"])
      | _, .reference .. => some (.error (.write "full"))
    b₁.objects ≠ b₂.objects ∧
      (b₁.ingest.run store []).result = (b₂.ingest.run store []).result ∧
      List.Forall₂ StoreCall.Alike (b₁.ingest.run store []).questions
        (b₂.ingest.run store []).questions := by
  intro batch b₁ b₂ store
  have answers (asked₁ call₁ asked₂ call₂) :
      StoreCall.SameAnswer call₁ call₂ (store asked₁ call₁) (store asked₂ call₂) := by
    cases call₁ <;> cases call₂ <;> trivial
  obtain ⟨result, questions, -⟩ := annotations_do_not_matter store store b₁ b₂ rfl rfl
    fun asked₁ call₁ asked₂ call₂ _ _ _ => answers asked₁ call₁ asked₂ call₂
  exact ⟨by decide, result, questions⟩

end Batch

end GraphIngest
