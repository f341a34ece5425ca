import GraphIngest.Dialogue
import Mathlib.Data.List.Forall2

/-!
# Dialogues in lock step

Two dialogues go in lock step if they ask like questions for as long as they get like answers. What
they tell is the same but for asides, which either of them may make at any time.

## Main definitions

* `Likeness`: which questions and which answers go together, and what is an aside.
* `Dialogue.Lockstep`: the dialogues that go in lock step.
* `Dialogue.Lockstep.run`: what they come to with two partners who give like answers.
-/

namespace GraphIngest

/-- What may differ between two dialogues, and what may not. A question is like itself, and then the
answers have to be the same. -/
structure Likeness (Q : Type) (A : Q → Type) (E : Type) where
  question : Q → Q → Prop
  answer (q₁ q₂ : Q) : Option (A q₁) → Option (A q₂) → Prop
  aside : E → Bool
  refl (q : Q) : question q q
  eq_of_answer {q : Q} {a₁ a₂ : Option (A q)} : answer q q a₁ a₂ → a₁ = a₂
  isSome_eq {q₁ q₂ : Q} {a₁ : Option (A q₁)} {a₂ : Option (A q₂)} :
    question q₁ q₂ → answer q₁ q₂ a₁ a₂ → a₁.isSome = a₂.isSome

/-- Events without the asides. -/
def Likeness.proper (L : Likeness Q A E) (es : List E) : List E := es.filter (!L.aside ·)

namespace Dialogue

variable {Q : Type} {A : Q → Type} {E R : Type} {L : Likeness Q A E}

/-- Dialogues that do like things in the same order. -/
inductive Lockstep (L : Likeness Q A E) : Dialogue Q A E R → Dialogue Q A E R → Prop where
  | done (r : R) : Lockstep L (.done r) (.done r)
  | tell (e : E) {d₁ d₂} : Lockstep L d₁ d₂ → Lockstep L (.tell e d₁) (.tell e d₂)
  | left {e : E} {d₁ d₂} : L.aside e → Lockstep L d₁ d₂ → Lockstep L (.tell e d₁) d₂
  | right {e : E} {d₁ d₂} : L.aside e → Lockstep L d₁ d₂ → Lockstep L d₁ (.tell e d₂)
  | ask {q₁ q₂ : Q} {next₁ : A q₁ → Dialogue Q A E R} {next₂ : A q₂ → Dialogue Q A E R} :
      L.question q₁ q₂ →
      (∀ a₁ a₂, L.answer q₁ q₂ (some a₁) (some a₂) → Lockstep L (next₁ a₁) (next₂ a₂)) →
      Lockstep L (.ask q₁ next₁) (.ask q₂ next₂)

/-- Whether two partners give like answers to the questions of two runs: the first to the first, the
second to the second, and so on. -/
def Like (L : Likeness Q A E) (partner₁ partner₂ : Partner Q A) (before₁ before₂ : List Q)
    (all₁ all₂ : List Q) : Prop :=
  ∀ asked₁ q₁ asked₂ q₂, asked₁.length = asked₂.length →
    asked₁ ++ [q₁] <+: all₁ → asked₂ ++ [q₂] <+: all₂ →
    L.answer q₁ q₂ (partner₁ (before₁ ++ asked₁) q₁) (partner₂ (before₂ ++ asked₂) q₂)

section Like

variable {partner₁ partner₂ : Partner Q A} {before₁ before₂ all₁ all₂ : List Q} {q₁ q₂ : Q}

theorem Like.head (h : Like L partner₁ partner₂ before₁ before₂ (q₁ :: all₁) (q₂ :: all₂)) :
    L.answer q₁ q₂ (partner₁ before₁ q₁) (partner₂ before₂ q₂) := by
  simpa using h [] q₁ [] q₂ rfl (by simp) (by simp)

theorem Like.tail (h : Like L partner₁ partner₂ before₁ before₂ (q₁ :: all₁) (q₂ :: all₂)) :
    Like L partner₁ partner₂ (before₁ ++ [q₁]) (before₂ ++ [q₂]) all₁ all₂ := by
  intro asked₁ p₁ asked₂ p₂ count sub₁ sub₂
  simpa using h (q₁ :: asked₁) p₁ (q₂ :: asked₂) p₂ (by simp [count])
    (List.cons_prefix_cons.mpr ⟨rfl, sub₁⟩) (List.cons_prefix_cons.mpr ⟨rfl, sub₂⟩)

end Like

namespace Lockstep

variable {d₁ d₂ : Dialogue Q A E R}

/-- A dialogue goes in lock step with itself. -/
theorem refl (d : Dialogue Q A E R) : Lockstep L d d := by
  induction d with
  | done r => exact .done r
  | tell e next ih => exact .tell e ih
  | ask q next ih =>
    refine .ask (L.refl q) fun a₁ a₂ alike => ?_
    obtain rfl := Option.some.inj (L.eq_of_answer alike)
    exact ih a₁

/-- Asides before dialogues in lock step. -/
theorem asides {es₁ es₂ : List E} (aside₁ : ∀ e ∈ es₁, L.aside e) (aside₂ : ∀ e ∈ es₂, L.aside e)
    (h : Lockstep L d₁ d₂) :
    Lockstep L ((events es₁).bind fun _ => d₁) ((events es₂).bind fun _ => d₂) := by
  induction es₁ with
  | nil =>
    induction es₂ with
    | nil => exact h
    | cons e rest ih =>
      obtain ⟨first, others⟩ := List.forall_mem_cons.mp aside₂
      exact .right first (ih others)
  | cons e rest ih =>
    obtain ⟨first, others⟩ := List.forall_mem_cons.mp aside₁
    exact .left first (ih others)

/-- Dialogues in lock step, run with partners who give like answers, ask like questions, tell the
same but for asides, and come to the same result. -/
theorem run (h : Lockstep L d₁ d₂) {partner₁ partner₂ : Partner Q A} {before₁ before₂ : List Q}
    (like : Like L partner₁ partner₂ before₁ before₂ (d₁.run partner₁ before₁).questions
      (d₂.run partner₂ before₂).questions) :
    List.Forall₂ L.question (d₁.run partner₁ before₁).questions
        (d₂.run partner₂ before₂).questions ∧
      L.proper (d₁.run partner₁ before₁).events = L.proper (d₂.run partner₂ before₂).events ∧
      (d₁.run partner₁ before₁).result = (d₂.run partner₂ before₂).result := by
  induction h generalizing before₁ before₂ with
  | done r => exact ⟨.nil, rfl, rfl⟩
  | tell e _ ih =>
    obtain ⟨questions, events, result⟩ := ih like
    refine ⟨questions, ?_, result⟩
    simp only [Likeness.proper, run_tell, List.filter_cons] at events ⊢
    rw [events]
  | left aside _ ih => simpa [Likeness.proper, aside] using ih like
  | right aside _ ih => simpa [Likeness.proper, aside] using ih like
  | @ask q₁ q₂ next₁ next₂ alike _ ih =>
    match answer₁ : partner₁ before₁ q₁, answer₂ : partner₂ before₂ q₂ with
    | none, none => simp [run_ask_unanswered answer₁, run_ask_unanswered answer₂, alike]
    | some a₁, some a₂ =>
      rw [run_ask_answered answer₁, run_ask_answered answer₂] at like ⊢
      have answers := like.head
      rw [answer₁, answer₂] at answers
      obtain ⟨questions, events, result⟩ := ih a₁ a₂ answers like.tail
      exact ⟨.cons alike questions, events, result⟩
    | none, some a₂ =>
      rw [run_ask_unanswered answer₁, run_ask_answered answer₂] at like
      simpa [answer₁, answer₂] using L.isSome_eq alike like.head
    | some a₁, none =>
      rw [run_ask_answered answer₁, run_ask_unanswered answer₂] at like
      simpa [answer₁, answer₂] using L.isSome_eq alike like.head

end Lockstep

end Dialogue

end GraphIngest
