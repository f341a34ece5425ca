import GraphIngest.Dialogue

/-!
# Laws of dialogues

How `Dialogue.bind` meets `Dialogue.run` and `Dialogue.via`.

## Main definitions

* `Dialogue.run_bind_done`: a dialogue of which only the result is looked at differently.
* `Dialogue.Partner.answering`: a partner who answers one question in another way.
* `Dialogue.via_bind`: dialogues in a row are answered in a row.
* `Dialogue.Within`: what a dialogue may ask and tell, whoever answers.
-/

namespace GraphIngest

namespace Dialogue

variable {Q P : Type} {A : Q → Type} {B : P → Type} {E R S : Type}

theorem run_bind_done (partner : Partner Q A) (before : List Q) (d : Dialogue Q A E R)
    (f : R → S) : (d.bind fun r => .done (f r)).run partner before =
      ⟨(d.run partner before).questions, (d.run partner before).events,
        (d.run partner before).result.map f⟩ := by
  rw [run_bind, Transcript.andThen]
  split
  · rename_i unanswered
    simp [unanswered]
  · rename_i r answered
    simp [answered]

theorem via_bind (answer : (q : Q) → Dialogue P B E (A q)) (d : Dialogue Q A E R)
    (f : R → Dialogue Q A E S) :
    (d.bind f).via answer = (d.via answer).bind fun r => (f r).via answer := by
  induction d with
  | done r => rfl
  | tell e next ih => exact congrArg (tell e) ih
  | ask q next ih =>
    calc ((ask q next).bind f).via answer
      _ = (answer q).bind fun a => ((next a).bind f).via answer := rfl
      _ = (answer q).bind fun a => ((next a).via answer).bind fun r => (f r).via answer := by
        simp only [ih]
      _ = ((ask q next).via answer).bind fun r => (f r).via answer := (bind_assoc ..).symm

theorem via_events (answer : (q : Q) → Dialogue P B E (A q)) (es : List E) :
    (events es : Dialogue Q A E Unit).via answer = events es := by
  induction es with
  | nil => rfl
  | cons e rest ih => exact congrArg (tell e) ih

/-! ## Partners who differ -/

/-- The partner who, when one question is asked after some others, gives a certain answer, and is
the same otherwise. -/
def Partner.answering [DecidableEq Q] (partner : Partner Q A) (earlier : List Q) (q : Q) (a : A q) :
    Partner Q A := fun before q' =>
  if h : before = earlier ∧ q = q' then some (h.2 ▸ a) else partner before q'

@[simp] theorem Partner.answering_self [DecidableEq Q] (partner : Partner Q A) (earlier : List Q)
    (q : Q) (a : A q) : partner.answering earlier q a earlier q = some a := by
  simp [Partner.answering]

theorem Partner.answering_of_ne [DecidableEq Q] {partner : Partner Q A} {before earlier : List Q}
    {q q' : Q} {a : A q} (other : before ≠ earlier) :
    partner.answering earlier q a before q' = partner before q' := by
  simp [Partner.answering, other]

/-- Only the answers after what was asked before a run have a part in it. -/
theorem run_congr {partner partner' : Partner Q A} {before : List Q}
    (same : ∀ more q, partner (before ++ more) q = partner' (before ++ more) q)
    (d : Dialogue Q A E R) : d.run partner before = d.run partner' before := by
  induction d generalizing before with
  | done r => rfl
  | tell e next ih => rw [run_tell, run_tell, ih same]
  | ask q next ih =>
    have first : partner before q = partner' before q := by simpa using same [] q
    cases answer : partner' before q with
    | none => rw [run_ask_unanswered (first.trans answer), run_ask_unanswered answer]
    | some a =>
      rw [run_ask_answered (first.trans answer), run_ask_answered answer,
        ih a fun more q' => by simpa using same (q :: more) q']

/-! ## What may be asked and told -/

/-- Whatever the answers are, a dialogue asks only some questions and tells only some events. -/
def Within (asks : Q → Prop) (tells : E → Prop) : Dialogue Q A E R → Prop
  | done _ => True
  | tell e next => tells e ∧ next.Within asks tells
  | ask q next => asks q ∧ ∀ a, (next a).Within asks tells

variable {asks asks' : Q → Prop} {tells tells' : E → Prop} {d : Dialogue Q A E R}

theorem Within.mono (h : d.Within asks tells) (more : ∀ q, asks q → asks' q)
    (more' : ∀ e, tells e → tells' e) : d.Within asks' tells' := by
  induction d with
  | done r => trivial
  | tell e next ih => exact ⟨more' e h.1, ih h.2⟩
  | ask q next ih => exact ⟨more q h.1, fun a => ih a (h.2 a)⟩

theorem Within.bind {f : R → Dialogue Q A E S} (h : d.Within asks tells)
    (rest : ∀ r, (f r).Within asks tells) : (d.bind f).Within asks tells := by
  induction d with
  | done r => exact rest r
  | tell e next ih => exact ⟨h.1, ih h.2⟩
  | ask q next ih => exact ⟨h.1, fun a => ih a (h.2 a)⟩

theorem Within.run (h : d.Within asks tells) (partner : Partner Q A) (before : List Q) :
    (∀ q ∈ (d.run partner before).questions, asks q) ∧
      ∀ e ∈ (d.run partner before).events, tells e := by
  induction d generalizing before with
  | done r => simp
  | tell e next ih =>
    obtain ⟨questions, events⟩ := ih h.2 before
    exact ⟨questions, List.forall_mem_cons.mpr ⟨h.1, events⟩⟩
  | ask q next ih =>
    cases answer : partner before q with
    | none =>
      rw [run_ask_unanswered answer]
      exact ⟨List.forall_mem_singleton.mpr h.1, by simp⟩
    | some a =>
      obtain ⟨questions, events⟩ := ih a (h.2 a) (before ++ [q])
      rw [run_ask_answered answer]
      exact ⟨List.forall_mem_cons.mpr ⟨h.1, questions⟩, events⟩

end Dialogue

end GraphIngest
