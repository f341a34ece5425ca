import GraphIngest.Proofs.Dialogue.Course
import Mathlib.Data.List.Induction

/-!
# Walks

A `Dialogue.Course` is about a partner who is known. A walk keeps all that can be seen on the way to
a place, and of whoever answers it knows the answers only. So it can be followed where others ask
the same partner in between.

## Main definitions

* `Dialogue.Walk`: the acts on the way to a place.
* `Dialogue.Gives`: a partner who gives some answers and no others.
* `Dialogue.acts`: the walk that a run takes.
* `Dialogue.Walk.run_eq`, `Dialogue.Walk.isPrefix`: a walk is what a dialogue does with a partner
  who gives the same answers.
-/

namespace GraphIngest

namespace Dialogue

variable {Q : Type} {A : Q → Type} {E R : Type}

/-! ## Acts -/

namespace Act

def question? : Act Q A E → Option Q
  | asked q => some q
  | told _ | answered _ _ | dropped => none

def event? : Act Q A E → Option E
  | told e => some e
  | asked _ | answered _ _ | dropped => none

def answer? : Act Q A E → Option ((q : Q) × A q)
  | answered q a => some ⟨q, a⟩
  | told _ | asked _ | dropped => none

/-- The questions among some acts. -/
def questions (acts : List (Act Q A E)) : List Q := acts.filterMap question?

/-- The events among some acts. -/
def events (acts : List (Act Q A E)) : List E := acts.filterMap event?

/-- The answers among some acts, each with its question. -/
def answers (acts : List (Act Q A E)) : List ((q : Q) × A q) := acts.filterMap answer?

@[simp] theorem questions_append (acts more : List (Act Q A E)) :
    questions (acts ++ more) = questions acts ++ questions more := List.filterMap_append

@[simp] theorem events_append (acts more : List (Act Q A E)) :
    events (acts ++ more) = events acts ++ events more := List.filterMap_append

@[simp] theorem answers_append (acts more : List (Act Q A E)) :
    answers (acts ++ more) = answers acts ++ answers more := List.filterMap_append

@[simp] theorem events_map_told (es : List E) : events (es.map told : List (Act Q A E)) = es := by
  simp [events, List.filterMap_map, Function.comp_def, event?]

@[simp] theorem shown_told (e : E) : questions [(told e : Act Q A E)] = [] ∧
    events [(told e : Act Q A E)] = [e] ∧ answers [(told e : Act Q A E)] = [] := ⟨rfl, rfl, rfl⟩

@[simp] theorem shown_asked (q : Q) : questions [(asked q : Act Q A E)] = [q] ∧
    events [(asked q : Act Q A E)] = [] ∧ answers [(asked q : Act Q A E)] = [] := ⟨rfl, rfl, rfl⟩

@[simp] theorem shown_answered (q : Q) (a : A q) : questions [(answered q a : Act Q A E)] = [] ∧
    events [(answered q a : Act Q A E)] = [] ∧
    answers [(answered q a : Act Q A E)] = [⟨q, a⟩] := ⟨rfl, rfl, rfl⟩

@[simp] theorem shown_dropped : questions [(dropped : Act Q A E)] = [] ∧
    events [(dropped : Act Q A E)] = [] ∧ answers [(dropped : Act Q A E)] = [] := ⟨rfl, rfl, rfl⟩

theorem questions_singleton (act : Act Q A E) : questions [act] = act.question?.toList := by
  cases act <;> rfl

theorem mem_of_mem_answers {acts : List (Act Q A E)} {q : Q} {a : A q}
    (h : ⟨q, a⟩ ∈ answers acts) : answered q a ∈ acts := by
  obtain ⟨act, among, shows⟩ := List.mem_filterMap.mp h
  cases act with
  | answered q' a' =>
    obtain ⟨rfl, same⟩ := Sigma.mk.inj (Option.some.inj shows)
    exact eq_of_heq same ▸ among
  | told | asked | dropped => cases shows

end Act

/-! ## Walks -/

/-- The acts of a dialogue on the way to a place. -/
inductive Walk (d : Dialogue Q A E R) : List (Act Q A E) → Place Q A E R → Prop where
  | start : Walk d [] (.going d)
  | step {acts p act p'} : Walk d acts p → Step p act p' → Walk d (acts ++ [act]) p'

/-- How many questions are without an answer. -/
def Place.unanswered : Place Q A E R → Nat
  | .going _ => 0
  | .waiting _ _ | .dropped => 1

/-- The result, if there is one. -/
def Place.outcome : Place Q A E R → Option R
  | .going (.done r) => some r
  | .going _ | .waiting _ _ | .dropped => none

namespace Walk

variable {d : Dialogue Q A E R} {acts more : List (Act Q A E)} {act : Act Q A E}
  {p : Place Q A E R}

theorem nil_iff : Walk d [] p ↔ p = .going d := by
  refine ⟨fun w => ?_, fun h => h ▸ .start⟩
  generalize nothing : ([] : List (Act Q A E)) = all at w
  cases w with
  | start => rfl
  | step => simp at nothing

theorem concat_iff : Walk d (acts ++ [act]) p ↔ ∃ p', Walk d acts p' ∧ Step p' act p := by
  refine ⟨fun w => ?_, fun ⟨_, w, last⟩ => .step w last⟩
  generalize whole : acts ++ [act] = all at w
  cases w with
  | start => simp at whole
  | step w last =>
    obtain ⟨rfl, same⟩ := List.append_inj' whole rfl
    obtain rfl := List.singleton_inj.mp same
    exact ⟨_, w, last⟩

/-- The beginning of a walk is a walk. -/
theorem of_append (w : Walk d (acts ++ more) p) : ∃ p', Walk d acts p' := by
  induction more using List.reverseRecOn generalizing p with
  | nil => exact ⟨p, by simpa using w⟩
  | append_singleton more last ih =>
    rw [← List.append_assoc] at w
    obtain ⟨p', w, -⟩ := concat_iff.mp w
    exact ih w

/-- All questions have answers but perhaps the last. -/
theorem length_answers (w : Walk d acts p) :
    (Act.answers acts).length + p.unanswered = (Act.questions acts).length := by
  induction w with
  | start => rfl
  | step _ last ih =>
    rw [Act.answers_append, Act.questions_append, List.length_append, List.length_append, ← ih]
    cases last <;> rfl

end Walk

/-! ## Partners who give the same answers -/

/-- Whether a partner, when these questions are asked, gives these answers to them and no others. -/
structure Gives (partner : Partner Q A) (asked : List Q) (answers : List ((q : Q) × A q)) :
    Prop where
  given : ∀ before q a, before <+: asked → answers[before.length]? = some ⟨q, a⟩ →
    partner before q = some a
  silent : ∀ before q, before ++ [q] <+: asked → answers.length ≤ before.length →
    partner before q = none

/-- The partner who gives some answers one after another, each only to its own question. -/
def giving [DecidableEq Q] (answers : List ((q : Q) × A q)) : Partner Q A := fun before q =>
  answers[before.length]?.bind fun x => if h : x.1 = q then some (h ▸ x.2) else none

theorem gives_giving [DecidableEq Q] (asked : List Q) (answers : List ((q : Q) × A q)) :
    Gives (giving answers) asked answers where
  given before q a _ h := by simp [giving, h]
  silent before q _ h := by simp [giving, h]

theorem mem_of_giving [DecidableEq Q] {answers : List ((q : Q) × A q)} {before : List Q} {q : Q}
    {a : A q} (h : giving answers before q = some a) : ⟨q, a⟩ ∈ answers := by
  obtain ⟨⟨q', a'⟩, found, same⟩ := Option.bind_eq_some_iff.mp h
  split at same
  · next own =>
    obtain rfl : q' = q := own
    obtain rfl := Option.some.inj same
    exact List.mem_of_getElem? found
  · cases same

/-- What becomes of a dialogue with a partner, after what was asked and told before. -/
def resume (partner : Partner Q A) (asked : List Q) (told : List E) (left : Dialogue Q A E R) :
    Transcript Q E R :=
  let t := left.run partner asked
  ⟨asked ++ t.questions, told ++ t.events, t.result⟩

/-- Whether a whole run goes on from a place where so much was asked and told. A question that has
no answer yet is asked again. -/
def Place.Continues (partner : Partner Q A) (whole : Transcript Q E R) (asked : List Q)
    (told : List E) : Place Q A E R → Prop
  | .going left => whole = resume partner asked told left
  | .waiting q next => ∃ earlier, asked = earlier ++ [q] ∧
      whole = resume partner earlier told (ask q next)
  | .dropped => ∃ earlier q next, asked = earlier ++ [q] ∧
      whole = resume partner earlier told (ask q next)

namespace Walk

variable {d : Dialogue Q A E R} {acts : List (Act Q A E)} {p : Place Q A E R}
  {partner : Partner Q A}

theorem continues (w : Walk d acts p)
    (given : ∀ before q a, before <+: Act.questions acts →
      (Act.answers acts)[before.length]? = some ⟨q, a⟩ → partner before q = some a) :
    p.Continues partner (d.run partner []) (Act.questions acts) (Act.events acts) := by
  induction w with
  | start => simp [Place.Continues, resume, Act.questions, Act.events]
  | @step acts p act p' w last ih =>
    have before := ih fun before q a beginning answer => by
      obtain ⟨inside, -⟩ := List.getElem?_eq_some_iff.mp answer
      refine given before q a (beginning.trans (by simp)) ?_
      rw [Act.answers_append, List.getElem?_append_left inside, answer]
    cases last with
    | tell e next => simpa [Place.Continues, resume] using before
    | ask q next => exact ⟨Act.questions acts, by simp, by simpa [Place.Continues] using before⟩
    | answer q next a =>
      -- Only the last question is open, so this answer is in its place among the answers.
      obtain ⟨earlier, asked, whole⟩ := before
      have open_one := w.length_answers
      simp only [Place.unanswered, asked, List.length_append, List.length_singleton] at open_one
      have answer : partner earlier q = some a := by
        refine given earlier q a (by simp [asked]) ?_
        rw [Act.answers_append, List.getElem?_append_right (by omega)]
        simp [show earlier.length = (Act.answers acts).length by omega]
      simpa [Place.Continues, resume, asked, run_ask_answered answer] using whole
    | drop q next =>
      obtain ⟨earlier, asked, whole⟩ := before
      exact ⟨earlier, q, next, by simpa using asked, by simpa using whole⟩

/-- Either a run goes on, or it stands at the last question that was asked. -/
theorem continues_cases {whole : Transcript Q E R} {asked : List Q} {told : List E}
    (h : p.Continues partner whole asked told) :
    (∃ left, p = .going left ∧ whole = resume partner asked told left) ∨
      p.outcome = none ∧ p.unanswered = 1 ∧ ∃ earlier q next, asked = earlier ++ [q] ∧
        whole = resume partner earlier told (ask q next) := by
  cases p with
  | going left => exact .inl ⟨left, rfl, h⟩
  | waiting q next =>
    obtain ⟨earlier, asked, whole⟩ := h
    exact .inr ⟨rfl, rfl, earlier, q, next, asked, whole⟩
  | dropped => exact .inr ⟨rfl, rfl, h⟩

/-- What is asked on a walk is the beginning of what a run asks, if the partner gives the same
answers. -/
theorem isPrefix (w : Walk d acts p)
    (g : Gives partner (Act.questions acts) (Act.answers acts)) :
    Act.questions acts <+: (d.run partner []).questions := by
  obtain ⟨left, -, whole⟩ | ⟨-, -, earlier, q, next, asked, whole⟩ :=
    continues_cases (w.continues g.given)
  · rw [whole]
    exact List.prefix_append _ _
  · rw [asked, whole, resume, List.prefix_append_right_inj]
    exact singleton_prefix_run_ask partner earlier q next

/-- A walk to a place of rest is a whole run, if the partner gives the same answers and no
others. -/
theorem run_eq (w : Walk d acts p) (rests : p.Rests)
    (g : Gives partner (Act.questions acts) (Act.answers acts)) :
    d.run partner [] = ⟨Act.questions acts, Act.events acts, p.outcome⟩ := by
  obtain ⟨left, rfl, whole⟩ | ⟨unfinished, open_one, earlier, q, next, asked, whole⟩ :=
    continues_cases (w.continues g.given)
  · cases left with
    | done r => simpa [resume, Place.outcome] using whole
    | tell | ask => exact rests.elim
  · have count := w.length_answers
    simp only [open_one, asked, List.length_append, List.length_singleton] at count
    have silent : partner earlier q = none := g.silent earlier q (by simp [asked]) (by omega)
    simpa [resume, run_ask_unanswered silent, asked, unfinished] using whole

end Walk

/-! ## The walk of a run -/

/-- What can be seen of a run. -/
def acts (partner : Partner Q A) (before : List Q) : Dialogue Q A E R → List (Act Q A E)
  | done _ => []
  | tell e next => .told e :: next.acts partner before
  | ask q next =>
    match partner before q with
    | none => [.asked q]
    | some a => .asked q :: .answered q a :: (next a).acts partner (before ++ [q])

section Acts

variable {S : Type} {partner : Partner Q A} {before : List Q} {q : Q}

theorem acts_ask_unanswered (h : partner before q = none) (next : A q → Dialogue Q A E R) :
    (ask q next).acts partner before = [.asked q] := by
  simp [acts, h]

theorem acts_ask_answered {a : A q} (h : partner before q = some a)
    (next : A q → Dialogue Q A E R) : (ask q next).acts partner before =
      .asked q :: .answered q a :: (next a).acts partner (before ++ [q]) := by
  simp [acts, h]

theorem acts_bind_events (partner : Partner Q A) (before : List Q) (es : List E)
    (f : Unit → Dialogue Q A E R) :
    ((events es).bind f).acts partner before = es.map .told ++ (f ()).acts partner before := by
  induction es with
  | nil => rfl
  | cons e rest ih => exact congrArg (Act.told e :: ·) ih

/-- The events of a run in their order. -/
@[simp] theorem events_acts (partner : Partner Q A) (before : List Q) (d : Dialogue Q A E R) :
    Act.events (d.acts partner before) = (d.run partner before).events := by
  induction d generalizing before with
  | done r => rfl
  | tell e next ih => exact congrArg (e :: ·) (ih before)
  | ask q next ih =>
    cases h : partner before q with
    | none =>
      rw [acts_ask_unanswered h, run_ask_unanswered h]
      rfl
    | some a =>
      rw [acts_ask_answered h, run_ask_answered h]
      exact ih a (before ++ [q])

end Acts

namespace Walk

variable {d : Dialogue Q A E R} {acts : List (Act Q A E)} {p : Place Q A E R}

theorem of_tell (w : Walk d acts p) (e : E) : Walk (.tell e d) (.told e :: acts) p := by
  induction w with
  | start => exact .step .start (.tell e d)
  | step _ last ih => exact .step ih last

theorem of_answer {q : Q} {next : A q → Dialogue Q A E R} {a : A q} (w : Walk (next a) acts p) :
    Walk (.ask q next) (.asked q :: .answered q a :: acts) p := by
  induction w with
  | start => exact .step (.step .start (.ask q next)) (.answer q next a)
  | step _ last ih => exact .step ih last

end Walk

/-- A run is a walk to a place of rest. -/
theorem exists_walk_acts (partner : Partner Q A) (before : List Q) (d : Dialogue Q A E R) :
    ∃ p, Walk d (d.acts partner before) p ∧ p.Rests ∧
      p.outcome = (d.run partner before).result := by
  induction d generalizing before with
  | done r => exact ⟨_, .start, trivial, rfl⟩
  | tell e next ih =>
    obtain ⟨p, w, rests, outcome⟩ := ih before
    exact ⟨p, w.of_tell e, rests, outcome⟩
  | ask q next ih =>
    cases h : partner before q with
    | none =>
      rw [acts_ask_unanswered h, run_ask_unanswered h]
      exact ⟨_, .step .start (.ask q next), trivial, rfl⟩
    | some a =>
      obtain ⟨p, w, rests, outcome⟩ := ih a (before ++ [q])
      rw [acts_ask_answered h, run_ask_answered h]
      exact ⟨p, w.of_answer, rests, outcome⟩

end Dialogue

end GraphIngest
