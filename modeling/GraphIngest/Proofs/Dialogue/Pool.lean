import GraphIngest.Proofs.Dialogue.Walk
import Mathlib.Logic.Function.Basic

/-!
# Dialogues side by side

Many dialogues ask the same partner. Any one of those that can go on does the next step, and any one
that waits may be given up. The partner sees one list of questions and does not know whose they are.

## Main definitions

* `Shuffle`: a list made of others, each of which keeps its order.
* `Dialogue.Pool`: where the dialogues stand, and what their partner was asked.
* `Dialogue.Pool.Walk`: their steps, one after another.
* `Dialogue.Pool.walk_iff`: the dialogues go side by side if and only if each goes its own way.
* `Dialogue.Pool.Walk.shuffle`: what the partner was asked is a shuffle of what each of them asked.
-/

namespace GraphIngest

/-- Whether a list is made of all the items of other lists, each of which keeps its order. -/
inductive Shuffle {ι α : Type} [DecidableEq ι] : (ι → List α) → List α → Prop where
  | nil : Shuffle (fun _ => []) []
  | concat {parts : ι → List α} {whole : List α} (i : ι) (a : α) : Shuffle parts whole →
      Shuffle (Function.update parts i (parts i ++ [a])) (whole ++ [a])

namespace Dialogue

variable {Q : Type} {A : Q → Type} {E R ι : Type}

/-- Where dialogues stand that go on side by side, and what they have asked the partner that they
share. -/
structure Pool (ι Q : Type) (A : Q → Type) (E R : Type) where
  places : ι → Place Q A E R
  log : List Q

namespace Pool

variable [DecidableEq ι]

/-- All dialogues at their start. -/
def start (d : ι → Dialogue Q A E R) : Pool ι Q A E R := ⟨fun i => .going (d i), []⟩

/-- A step of the pool is a step of one of its dialogues. If that asks, the partner is asked. -/
inductive Step : Pool ι Q A E R → ι × Act Q A E → Pool ι Q A E R → Prop where
  | of {pool : Pool ι Q A E R} {i : ι} {act : Act Q A E} {p : Place Q A E R} :
      Dialogue.Step (pool.places i) act p →
      Step pool (i, act) ⟨Function.update pool.places i p, pool.log ++ act.question?.toList⟩

/-- Steps of a pool one after another, each with the dialogue whose step it is. -/
inductive Walk (d : ι → Dialogue Q A E R) : List (ι × Act Q A E) → Pool ι Q A E R → Prop where
  | start : Walk d [] (start d)
  | step {seen pool entry pool'} : Walk d seen pool → Step pool entry pool' →
      Walk d (seen ++ [entry]) pool'

/-- The acts of one dialogue among those of all. -/
def own (i : ι) (seen : List (ι × Act Q A E)) : List (Act Q A E) :=
  (seen.filter (·.1 = i)).map (·.2)

variable {d : ι → Dialogue Q A E R} {seen more : List (ι × Act Q A E)} {pool : Pool ι Q A E R}
  {i j : ι} {act : Act Q A E}

@[simp] theorem own_nil (i : ι) : own i ([] : List (ι × Act Q A E)) = [] := rfl

@[simp] theorem own_append (i : ι) (seen more : List (ι × Act Q A E)) :
    own i (seen ++ more) = own i seen ++ own i more := by
  simp [own]

@[simp] theorem own_cons_self (i : ι) (act : Act Q A E) (seen : List (ι × Act Q A E)) :
    own i ((i, act) :: seen) = act :: own i seen := by
  simp [own]

theorem own_of_ne (h : j ≠ i) (act : Act Q A E) : own j [(i, act)] = [] := by
  simp [own, Ne.symm h]

theorem mem_of_mem_own (h : act ∈ own i seen) : (i, act) ∈ seen := by
  obtain ⟨entry, among, rfl⟩ := List.mem_map.mp h
  obtain ⟨inside, owned⟩ := List.mem_filter.mp among
  obtain rfl : entry.1 = i := by simpa using owned
  exact inside

/-- Only the dialogue that does a step asks anything. -/
theorem questions_own_concat (seen : List (ι × Act Q A E)) (i : ι) (act : Act Q A E) :
    (fun j => Act.questions (own j (seen ++ [(i, act)]))) =
      Function.update (fun j => Act.questions (own j seen)) i
        (Act.questions (own i seen) ++ act.question?.toList) := by
  funext j
  by_cases same : j = i
  · subst same
    simp [Act.questions_singleton]
  · simp [own_of_ne same, Function.update_of_ne same, Act.questions]

/-! ## Each goes its own way -/

/-- After a step, the dialogue that did it stands elsewhere, and the others where they stood. -/
theorem walk_update (each : ∀ j, Dialogue.Walk (d j) (own j seen) (pool.places j))
    {p : Place Q A E R} (one : Dialogue.Step (pool.places i) act p) (j : ι) :
    Dialogue.Walk (d j) (own j (seen ++ [(i, act)])) (Function.update pool.places i p j) := by
  by_cases same : j = i
  · subst same
    simpa using (each j).step one
  · simpa [own_of_ne same, Function.update_of_ne same] using each j

/-- Dialogues go side by side if and only if each goes its own way, whatever the others do. Their
partner is asked what they ask, when they ask it. -/
theorem walk_iff : Walk d seen pool ↔ pool.log = Act.questions (seen.map (·.2)) ∧
    ∀ i, Dialogue.Walk (d i) (own i seen) (pool.places i) := by
  constructor
  · intro w
    induction w with
    | start => exact ⟨rfl, fun i => .start⟩
    | step _ last ih =>
      obtain ⟨logged, each⟩ := ih
      cases last with
      | of one =>
        refine ⟨?_, walk_update each one⟩
        simp [logged, Act.questions_singleton]
  · rintro ⟨logged, each⟩
    induction seen using List.reverseRecOn generalizing pool with
    | nil =>
      obtain ⟨places, log⟩ := pool
      obtain rfl : log = [] := logged
      obtain rfl : places = fun i => .going (d i) :=
        funext fun i => Dialogue.Walk.nil_iff.mp (each i)
      exact .start
    | append_singleton seen entry ih =>
      -- Put the dialogue that did the last step back to where it stood before.
      obtain ⟨i, act⟩ := entry
      obtain ⟨p, w, last⟩ := Dialogue.Walk.concat_iff.mp (by simpa using each i)
      have before : Walk d seen
          ⟨Function.update pool.places i p, Act.questions (seen.map (·.2))⟩ := by
        refine ih rfl fun j => ?_
        by_cases same : j = i
        · subst same
          simpa using w
        · simpa [own_of_ne same, Function.update_of_ne same] using each j
      have after := before.step (.of (i := i) (by simpa using last))
      have whole : pool.log = Act.questions (seen.map (·.2)) ++ act.question?.toList := by
        simpa [Act.questions_singleton] using logged
      simpa [← whole] using after

/-- Whatever each dialogue does alone, they can do side by side, in every order. -/
theorem exists_walk (each : ∀ i, ∃ p, Dialogue.Walk (d i) (own i seen) p) :
    ∃ pool, Walk d seen pool := by
  choose places each using each
  exact ⟨⟨places, Act.questions (seen.map (·.2))⟩, walk_iff.mpr ⟨rfl, each⟩⟩

/-- What the partner was asked is a shuffle of what each dialogue asked. -/
theorem Walk.shuffle (w : Walk d seen pool) :
    Shuffle (fun i => Act.questions (own i seen)) pool.log := by
  induction w with
  | start => exact .nil
  | @step seen pool _ _ _ last ih =>
    cases last with
    | @of i act _ one =>
      rw [questions_own_concat]
      cases act.question? with
      | none => simpa using ih
      | some q => exact .concat i q ih

end Pool

end Dialogue

end GraphIngest
