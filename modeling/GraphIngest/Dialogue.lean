/-!
# Dialogues

A dialogue is a piece of work that asks questions and tells events. It does nothing by itself: who
answers decides what happens, and may also never answer.

## Main definitions

* `Dialogue`: a tree of questions and events that ends in a result.
* `Dialogue.bind`: one dialogue after another.
* `Dialogue.via`: a dialogue whose questions are answered by other dialogues.
* `Dialogue.run`: what is asked, told and returned when the questions are answered in some way;
  `Dialogue.run_bind` says how this follows the structure of the work.
* `Dialogue.perform`: a dialogue whose questions are answered by effects.
-/

namespace GraphIngest

/-- A piece of work that asks questions, each with its own type of answers. -/
inductive Dialogue (Question : Type) (Answer : Question → Type) (Event : Type) (Result : Type) where
  | done (result : Result)
  | tell (event : Event) (next : Dialogue Question Answer Event Result)
  | ask (question : Question) (next : Answer question → Dialogue Question Answer Event Result)

/-- What became of a dialogue: what was asked and told, each in its order, and the result, unless a
question was never answered. -/
structure Transcript (Question Event Result : Type) where
  questions : List Question
  events : List Event
  result : Option Result
  deriving Repr

/-- What became of a dialogue and of the one that its result leads to. -/
def Transcript.andThen (t : Transcript Q E R) (next : R → Transcript Q E S) : Transcript Q E S :=
  match t.result with
  | none => ⟨t.questions, t.events, none⟩
  | some r =>
    ⟨t.questions ++ (next r).questions, t.events ++ (next r).events, (next r).result⟩

namespace Dialogue

variable {Q : Type} {A : Q → Type} {E R S T : Type}

/-- One dialogue, and then another that depends on its result. -/
def bind : Dialogue Q A E R → (R → Dialogue Q A E S) → Dialogue Q A E S
  | done r, f => f r
  | tell e next, f => tell e (next.bind f)
  | ask q next, f => ask q fun a => (next a).bind f

@[simp] theorem bind_done (r : R) (f : R → Dialogue Q A E S) : (done r).bind f = f r := rfl

@[simp] theorem bind_tell (e : E) (next : Dialogue Q A E R) (f : R → Dialogue Q A E S) :
    (tell e next).bind f = tell e (next.bind f) := rfl

@[simp] theorem bind_ask (q : Q) (next : A q → Dialogue Q A E R) (f : R → Dialogue Q A E S) :
    (ask q next).bind f = ask q fun a => (next a).bind f := rfl

theorem bind_done_right (d : Dialogue Q A E R) : d.bind done = d := by
  induction d with
  | done r => rfl
  | tell e next ih => simp [ih]
  | ask q next ih => simp [ih]

theorem bind_assoc (d : Dialogue Q A E R) (f : R → Dialogue Q A E S) (g : S → Dialogue Q A E T) :
    (d.bind f).bind g = d.bind fun r => (f r).bind g := by
  induction d with
  | done r => rfl
  | tell e next ih => simp [ih]
  | ask q next ih => simp [ih]

instance : Monad (Dialogue Q A E) where
  pure := done
  bind := bind

instance : LawfulMonad (Dialogue Q A E) :=
  LawfulMonad.mk' _ bind_done_right (fun _ _ => rfl) bind_assoc

@[simp] theorem pure_eq (r : R) : (pure r : Dialogue Q A E R) = done r := rfl

@[simp] theorem bind_eq (d : Dialogue Q A E R) (f : R → Dialogue Q A E S) :
    d >>= f = d.bind f := rfl

/-- Ask one question. -/
def question (q : Q) : Dialogue Q A E (A q) := ask q done

/-- Tell one event. -/
def event (e : E) : Dialogue Q A E Unit := tell e (done ())

/-- Tell some events. -/
def events : List E → Dialogue Q A E Unit
  | [] => done ()
  | e :: rest => tell e (events rest)

/-- Answer the questions of a dialogue by dialogues with someone else. -/
def via {P : Type} {B : P → Type} (answer : (q : Q) → Dialogue P B E (A q)) :
    Dialogue Q A E R → Dialogue P B E R
  | done r => done r
  | tell e next => tell e (via answer next)
  | ask q next => (answer q).bind fun a => via answer (next a)

/-- Someone who answers questions. What was asked before may matter; and a question may remain
without an answer. -/
abbrev Partner (Q : Type) (A : Q → Type) := (before : List Q) → (q : Q) → Option (A q)

/-- Run a dialogue with a partner, who was asked some questions before. The work is dropped when a
question is not answered. -/
def run (partner : Partner Q A) (before : List Q) : Dialogue Q A E R → Transcript Q E R
  | done r => ⟨[], [], some r⟩
  | tell e next =>
    let t := next.run partner before
    { t with events := e :: t.events }
  | ask q next =>
    match partner before q with
    | none => ⟨[q], [], none⟩
    | some a =>
      let t := (next a).run partner (before ++ [q])
      { t with questions := q :: t.questions }

@[simp] theorem run_done (partner : Partner Q A) (before : List Q) (r : R) :
    (done r : Dialogue Q A E R).run partner before = ⟨[], [], some r⟩ := rfl

@[simp] theorem run_tell (partner : Partner Q A) (before : List Q) (e : E)
    (next : Dialogue Q A E R) : (tell e next).run partner before =
      ⟨(next.run partner before).questions, e :: (next.run partner before).events,
        (next.run partner before).result⟩ := rfl

theorem run_ask_unanswered {partner : Partner Q A} {before : List Q} {q : Q}
    (h : partner before q = none) (next : A q → Dialogue Q A E R) :
    (ask q next).run partner before = ⟨[q], [], none⟩ := by
  simp [run, h]

theorem run_ask_answered {partner : Partner Q A} {before : List Q} {q : Q} {a : A q}
    (h : partner before q = some a) (next : A q → Dialogue Q A E R) :
    (ask q next).run partner before =
      ⟨q :: ((next a).run partner (before ++ [q])).questions,
        ((next a).run partner (before ++ [q])).events,
        ((next a).run partner (before ++ [q])).result⟩ := by
  simp [run, h]

/-- The second dialogue begins where the first one ended, with the same partner. -/
theorem run_bind (partner : Partner Q A) (before : List Q) (d : Dialogue Q A E R)
    (f : R → Dialogue Q A E S) : (d.bind f).run partner before =
      (d.run partner before).andThen fun r =>
        (f r).run partner (before ++ (d.run partner before).questions) := by
  induction d generalizing before with
  | done r => simp [Transcript.andThen]
  | tell e next ih =>
    simp only [bind_tell, run_tell, ih, Transcript.andThen]
    split <;> simp_all
  | ask q next ih =>
    rw [bind_ask]
    cases h : partner before q with
    | none => simp [run_ask_unanswered h, Transcript.andThen]
    | some a =>
      simp only [run_ask_answered h, ih, Transcript.andThen]
      split <;> simp_all

theorem run_events (partner : Partner Q A) (before : List Q) (es : List E) :
    (events es : Dialogue Q A E Unit).run partner before = ⟨[], es, some ()⟩ := by
  induction es with
  | nil => rfl
  | cons e rest ih => simp [events, ih]

/-- Answer each question by an effect, and pass each event on. -/
def perform {M : Type → Type} [Monad M] (answer : (q : Q) → M (A q)) (observe : E → M Unit) :
    Dialogue Q A E R → M R
  | done r => pure r
  | tell e next => do
    observe e
    perform answer observe next
  | ask q next => do perform answer observe (next (← answer q))

end Dialogue

end GraphIngest
