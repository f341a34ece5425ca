import GraphIngest.Dialogue

/-!
# The course of a dialogue

`Dialogue.run` follows a dialogue to its end. Here it is followed step by step, so that one may look
at it on the way, or give it up while it waits for an answer.

## Main definitions

* `Dialogue.Place`: where a dialogue stands; `Dialogue.Step` is what it may do next.
* `Dialogue.Course`: what was asked on the way to a place.
* `Dialogue.Course.isPrefix`, `Dialogue.exists_waiting_iff`: the courses are the beginnings of the
  run.
-/

namespace GraphIngest

namespace Dialogue

variable {Q : Type} {A : Q → Type} {E R : Type}

/-- Where a dialogue stands. -/
inductive Place (Q : Type) (A : Q → Type) (E R : Type) where
  /-- It goes on by itself. -/
  | going (left : Dialogue Q A E R)
  /-- A question was asked and has no answer yet. -/
  | waiting (question : Q) (next : A question → Dialogue Q A E R)
  /-- It was given up while it waited. -/
  | dropped

/-- What can be seen of a step. -/
inductive Act (Q : Type) (A : Q → Type) (E : Type) where
  | told (event : E)
  | asked (question : Q)
  | answered (question : Q) (answer : A question)
  | dropped

/-- The steps of a dialogue. There is none from where it was given up. -/
inductive Step : Place Q A E R → Act Q A E → Place Q A E R → Prop where
  | tell (e : E) (next : Dialogue Q A E R) : Step (.going (.tell e next)) (.told e) (.going next)
  | ask (q : Q) (next : A q → Dialogue Q A E R) :
      Step (.going (.ask q next)) (.asked q) (.waiting q next)
  | answer (q : Q) (next : A q → Dialogue Q A E R) (a : A q) :
      Step (.waiting q next) (.answered q a) (.going (next a))
  | drop (q : Q) (next : A q → Dialogue Q A E R) : Step (.waiting q next) .dropped .dropped

/-- What was asked of a partner on the way to a place. Only the last question can still be
without an answer. -/
inductive Course (partner : Partner Q A) (before : List Q) (d : Dialogue Q A E R) :
    List Q → Place Q A E R → Prop where
  | start : Course partner before d [] (.going d)
  | told {asked p e p'} : Course partner before d asked p → Step p (.told e) p' →
      Course partner before d asked p'
  | asked {asked p q p'} : Course partner before d asked p → Step p (.asked q) p' →
      Course partner before d (asked ++ [q]) p'
  | answered {asked p q a p'} : Course partner before d (asked ++ [q]) p →
      Step p (.answered q a) p' → partner (before ++ asked) q = some a →
      Course partner before d (asked ++ [q]) p'
  | dropped {asked p p'} : Course partner before d asked p → Step p .dropped p' →
      Course partner before d asked p'

/-- Places at which a dialogue rests: it waits, was given up, or is done. -/
def Place.Rests : Place Q A E R → Prop
  | .going (.done _) | .waiting _ _ | .dropped => True
  | .going _ => False

/-! ## Courses are beginnings of the run -/

/-- What was asked so far and what is still to be asked make up a whole. -/
def Place.Accounts (partner : Partner Q A) (before whole asked : List Q) :
    Place Q A E R → Prop
  | .going left => whole = asked ++ (left.run partner (before ++ asked)).questions
  | .waiting q next => ∃ earlier, asked = earlier ++ [q] ∧
      whole = earlier ++ ((ask q next).run partner (before ++ earlier)).questions
  | .dropped => asked ≠ [] ∧ asked <+: whole

/-- The first question of a run is the one that is asked. -/
theorem singleton_prefix_run_ask (partner : Partner Q A) (before : List Q) (q : Q)
    (next : A q → Dialogue Q A E R) : [q] <+: ((ask q next).run partner before).questions := by
  cases h : partner before q with
  | none => simp [run_ask_unanswered h]
  | some a => simp [run_ask_answered h]

theorem Course.accounts {partner : Partner Q A} {before : List Q} {d : Dialogue Q A E R}
    {asked : List Q} {p : Place Q A E R} (h : Course partner before d asked p) :
    p.Accounts partner before (d.run partner before).questions asked := by
  induction h with
  | start => simp [Place.Accounts]
  | told _ step ih =>
    cases step with
    | tell e next => simpa [Place.Accounts] using ih
  | @asked asked _ _ _ _ step ih =>
    cases step with
    | ask q next => exact ⟨asked, rfl, ih⟩
  | answered _ step answer ih =>
    cases step with
    | answer q next a =>
      obtain ⟨earlier, split, whole⟩ := ih
      obtain ⟨rfl, -⟩ := List.append_inj' split rfl
      simpa [Place.Accounts, run_ask_answered answer] using whole
  | dropped _ step ih =>
    cases step with
    | drop q next =>
      obtain ⟨earlier, rfl, whole⟩ := ih
      refine ⟨by simp, ?_⟩
      rw [whole, List.prefix_append_right_inj]
      exact singleton_prefix_run_ask partner _ q next

/-- Whatever happens on the way, what was asked is the beginning of what a run asks that is not
given up. -/
theorem Course.isPrefix {partner : Partner Q A} {before : List Q} {d : Dialogue Q A E R}
    {asked : List Q} {p : Place Q A E R} (h : Course partner before d asked p) :
    asked <+: (d.run partner before).questions := by
  have accounts := h.accounts
  cases p with
  | going left => exact accounts ▸ List.prefix_append _ _
  | waiting q next =>
    obtain ⟨earlier, rfl, whole⟩ := accounts
    rw [whole, List.prefix_append_right_inj]
    exact singleton_prefix_run_ask partner _ q next
  | dropped => exact accounts.2

/-- A dialogue that asks anything rests only after a question. -/
theorem Course.ne_nil_of_rests {partner : Partner Q A} {before : List Q} {d : Dialogue Q A E R}
    {asked : List Q} {p : Place Q A E R} (h : Course partner before d asked p) (rests : p.Rests)
    (asks : (d.run partner before).questions ≠ []) : asked ≠ [] := by
  have accounts := h.accounts
  cases p with
  | going left =>
    cases left with
    | done r =>
      rintro rfl
      exact asks (by simpa [Place.Accounts] using accounts)
    | tell | ask => exact rests.elim
  | waiting q next =>
    obtain ⟨earlier, rfl, -⟩ := accounts
    simp
  | dropped => exact accounts.1

/-! ## Beginnings of the run are courses -/

theorem Course.tell {partner : Partner Q A} {before : List Q} {d : Dialogue Q A E R}
    {asked : List Q} {p : Place Q A E R} (h : Course partner before d asked p) (e : E) :
    Course partner before (.tell e d) asked p := by
  induction h with
  | start => exact .told .start (.tell e d)
  | told _ step ih => exact .told ih step
  | asked _ step ih => exact .asked ih step
  | answered _ step answer ih => exact .answered ih step answer
  | dropped _ step ih => exact .dropped ih step

theorem Course.ask {partner : Partner Q A} {before : List Q} {q : Q} {a : A q}
    {next : A q → Dialogue Q A E R} {asked : List Q} {p : Place Q A E R}
    (answer : partner before q = some a) (h : Course partner (before ++ [q]) (next a) asked p) :
    Course partner before (.ask q next) (q :: asked) p := by
  induction h with
  | start =>
    have first : Course partner before (.ask q next) ([] ++ [q]) (.waiting q next) :=
      .asked .start (.ask q next)
    exact first.answered (.answer q next a) (by simpa using answer)
  | told _ step ih => exact .told ih step
  | asked _ step ih => exact .asked ih step
  | @answered asked p q' _ _ _ step answer' ih =>
    have more : Course partner before (.ask q next) ((q :: asked) ++ [q']) p := ih
    exact more.answered step (by simpa using answer')
  | dropped _ step ih => exact .dropped ih step

theorem exists_waiting_of_prefix {partner : Partner Q A} {before : List Q} {d : Dialogue Q A E R}
    {asked : List Q} (ne : asked ≠ []) (h : asked <+: (d.run partner before).questions) :
    ∃ q next, Course partner before d asked (.waiting q next) := by
  induction d generalizing before asked with
  | done r => exact absurd (List.prefix_nil.mp h) ne
  | tell e next ih =>
    obtain ⟨q, rest, course⟩ := ih ne h
    exact ⟨q, rest, course.tell e⟩
  | ask q next ih =>
    obtain ⟨first, more, rfl⟩ := List.exists_cons_of_ne_nil ne
    have atFirst : Course partner before (.ask q next) [q] (.waiting q next) :=
      .asked .start (.ask q next)
    cases answer : partner before q with
    | none =>
      obtain ⟨rfl, rfl⟩ : first = q ∧ more = [] := by
        simpa [run_ask_unanswered answer] using h
      exact ⟨_, _, atFirst⟩
    | some a =>
      obtain ⟨rfl, rest⟩ : first = q ∧ more <+: _ := by
        simpa [run_ask_answered answer, List.cons_prefix_cons] using h
      by_cases last : more = []
      · exact ⟨_, _, last ▸ atFirst⟩
      · obtain ⟨q', next', course⟩ := ih a last rest
        exact ⟨q', next', course.ask answer⟩

/-- A dialogue waits after exactly the beginnings of its run, the empty one apart. -/
theorem exists_waiting_iff {partner : Partner Q A} {before : List Q} {d : Dialogue Q A E R}
    {asked : List Q} : (∃ q next, Course partner before d asked (.waiting q next)) ↔
      asked ≠ [] ∧ asked <+: (d.run partner before).questions := by
  constructor
  · rintro ⟨q, next, course⟩
    obtain ⟨earlier, rfl, -⟩ := course.accounts
    exact ⟨by simp, course.isPrefix⟩
  · rintro ⟨ne, h⟩
    exact exists_waiting_of_prefix ne h

end Dialogue

end GraphIngest
