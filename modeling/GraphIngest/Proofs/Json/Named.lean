import GraphIngest.Proofs.Json.Members
import Mathlib.Data.List.Forall2

/-!
# Members by name

A field of a record takes one member of its name, and no more than one. Whether the members of an
object can be read is decided for each name on its own.

## Main definitions

* `AtMostOnce`: at most one of some values, and that is as it should be.
* `Draft.named`, `Json.named`: the members of a name.
* `RecordFormat.Keeps.exists_readMembers_iff`: when the members of an object can be read.
-/

namespace GraphIngest

/-! ## At most one -/

section AtMostOnce

variable {α β : Type} {held : Bool} {xs : List α} {P : α → Prop}

/-- There is at most one value, or none if one is held already, and what there is is as it should
be. -/
def AtMostOnce (held : Bool) (xs : List α) (P : α → Prop) : Prop :=
  xs.length + held.toNat ≤ 1 ∧ ∀ x ∈ xs, P x

theorem atMostOnce_nil : AtMostOnce held ([] : List α) P :=
  ⟨by cases held <;> simp, by simp⟩

theorem atMostOnce_cons {x : α} :
    AtMostOnce held (x :: xs) P ↔ held = false ∧ P x ∧ AtMostOnce true xs P := by
  cases held <;> simp [AtMostOnce]
  grind

theorem atMostOnce_false : AtMostOnce false xs P ↔ xs.length ≤ 1 ∧ ∀ x ∈ xs, P x := by
  simp [AtMostOnce]

theorem atMostOnce_and_ne_nil_iff : AtMostOnce false xs P ∧ xs ≠ [] ↔ ∃ x, xs = [x] ∧ P x := by
  cases xs with
  | nil => simp
  | cons x rest =>
    simp only [atMostOnce_cons, ne_eq, reduceCtorEq, not_false_eq_true, and_true, true_and,
      List.cons.injEq]
    constructor
    · rintro ⟨as_it_should, none_more, -⟩
      have empty : rest = [] := List.length_eq_zero_iff.mp (by simpa using none_more)
      exact ⟨x, ⟨rfl, empty⟩, as_it_should⟩
    · rintro ⟨_, ⟨rfl, rfl⟩, as_it_should⟩
      exact ⟨as_it_should, atMostOnce_nil⟩

theorem AtMostOnce.of_forall₂ {R : α → β → Prop} {ys : List β} {Q : β → Prop}
    (same : List.Forall₂ R xs ys) (iff : ∀ x y, R x y → (P x ↔ Q y)) :
    AtMostOnce held xs P ↔ AtMostOnce held ys Q := by
  have all : (∀ x ∈ xs, P x) ↔ ∀ y ∈ ys, Q y := by
    induction same with
    | nil => simp
    | cons related _ ih => simp [ih, iff _ _ related]
  rw [AtMostOnce, AtMostOnce, same.length_eq, all]

/-- A value that comes next for one name has to be as it should be, and from then on that name is
held. For all other names nothing changes. -/
theorem atMostOnce_next_iff {known : String → Prop} {P : String → α → Prop}
    {held held' : String → Bool} {all rest : String → List α} {name : String} {x : α}
    (lists : ∀ n, all n = if n = name then x :: rest n else rest n)
    (holds : ∀ n, known n → held' n = if n = name then true else held n) :
    (∀ n, known n → AtMostOnce (held n) (all n) (P n)) ↔
      (known name → held name = false ∧ P name x) ∧
        ∀ n, known n → AtMostOnce (held' n) (rest n) (P n) := by
  constructor
  · intro h
    refine ⟨fun k => ?_, fun n k => ?_⟩
    · have first := h name k
      rw [lists, if_pos rfl, atMostOnce_cons] at first
      exact ⟨first.1, first.2.1⟩
    · have one := h n k
      rw [lists] at one
      rw [holds n k]
      by_cases same : n = name
      · rw [if_pos same, atMostOnce_cons] at one
        rw [if_pos same]
        exact one.2.2
      · rwa [if_neg same] at one ⊢
  · rintro ⟨next, others⟩ n k
    have one := others n k
    rw [holds n k] at one
    rw [lists]
    by_cases same : n = name
    · subst same
      rw [if_pos rfl] at one ⊢
      exact atMostOnce_cons.mpr ⟨(next k).1, (next k).2, one⟩
    · rwa [if_neg same] at one ⊢

end AtMostOnce

/-! ## Members of a name -/

/-- The values of the members of a name, in their order. -/
def Draft.named (name : String) (members : List (Quoted × Draft)) : List Draft :=
  members.filterMap fun m => if m.1.read.toOption = some name then some m.2 else none

/-- The values of the members of a name, in their order. -/
def Json.named (name : String) (members : List (String × Json)) : List Json :=
  members.filterMap fun m => if m.1 = name then some m.2 else none

theorem Draft.named_cons {q : Quoted} {name : String} (key : q.read = .ok name) (d : Draft)
    (rest : List (Quoted × Draft)) (n : String) :
    named n ((q, d) :: rest) = if n = name then d :: named n rest else named n rest := by
  by_cases same : n = name
  · simp [named, key, Except.toOption, same]
  · simp [named, key, Except.toOption, same, Ne.symm same]

@[simp] theorem Draft.named_nil (name : String) : named name [] = [] := rfl

@[simp] theorem Draft.named_ofText (name : String) (d : Draft) (rest : List (Quoted × Draft))
    (n : String) :
    named n ((.ofText name, d) :: rest) = if n = name then d :: named n rest else named n rest :=
  named_cons (Quoted.read_ofText name) d rest n

theorem Json.named_cons (name : String) (v : Json) (rest : List (String × Json)) (n : String) :
    named n ((name, v) :: rest) = if n = name then v :: named n rest else named n rest := by
  by_cases same : n = name
  · simp [named, same]
  · simp [named, same, Ne.symm same]

/-- Members of other names may be left out. -/
theorem Json.named_filter (keep : String → Bool) {name : String} (kept : keep name)
    (members : List (String × Json)) :
    named name (members.filter fun m => keep m.1) = named name members := by
  rw [named, List.filterMap_filter, named]
  refine List.filterMap_congr fun m _ => ?_
  by_cases same : m.1 = name <;> simp [same, kept]

/-- The last of equal names is the one that is looked up. -/
theorem Json.lookup_reverse_eq (name : String) (members : List (String × Json)) :
    members.reverse.lookup name = (named name members).getLast? := by
  induction members with
  | nil => rfl
  | cons m rest ih =>
    rw [List.reverse_cons, List.lookup_append, ih, Json.lookup_cons_eq, named_cons]
    by_cases same : name = m.1
    · rw [if_pos same, if_pos same, List.getLast?_cons]
      cases (named name rest).getLast? <;> rfl
    · rw [if_neg same, if_neg same]
      simp

/-- The members of a name are read one by one. -/
theorem Draft.named_of_anyMembers {room : Nat} {members : List (Quoted × Draft)}
    {vs : List (String × Json)} (values : JsonReader.anyMembers room members = .ok vs)
    (name : String) :
    List.Forall₂ (fun d v => JsonReader.any room d = .ok v) (named name members)
      (Json.named name vs) := by
  induction members generalizing vs with
  | nil =>
    obtain rfl : [] = vs := Except.ok.inj values
    exact .nil
  | cons m rest ih =>
    obtain ⟨n, v, vs, key, value, others, rfl⟩ := JsonReader.anyMembers_cons_eq_ok.mp values
    rw [Draft.named_cons key, Json.named_cons]
    split
    · exact .cons value (ih others)
    · exact ih others

theorem Draft.exists_any_of_named {room : Nat} {members : List (Quoted × Draft)}
    {vs : List (String × Json)} (values : JsonReader.anyMembers room members = .ok vs)
    {name : String} : ∀ d ∈ named name members, ∃ v, JsonReader.any room d = .ok v := by
  have each := named_of_anyMembers values name
  generalize named name members = ds, Json.named name vs = ws at each ⊢
  induction each with
  | nil => simp
  | cons value _ ih => exact List.forall_mem_cons.mpr ⟨⟨_, value⟩, ih⟩

/-! ## Reading members -/

namespace RecordFormat

open JsonReader

variable {P R : Type} {f : RecordFormat P R} {member : P → String → Option Json}

/-- The reader of a member of a name. -/
def reader (f : RecordFormat P R) (name : String) : JsonReader (P → P) :=
  match f.fields.find? (·.name = name) with
  | some field => field.read
  | none => f.other name

theorem reader_of_unknown {name : String} (unknown : name ∉ f.fields.map (·.name)) :
    f.reader name = f.other name := by
  have nothing : f.fields.find? (·.name = name) = none := by simpa using unknown
  rw [reader, nothing]

theorem readMembers_cons_iff {room : Nat} {p p' : P} {q : Quoted} {d : Draft} {name : String}
    {rest : List (Quoted × Draft)} (key : q.read = .ok name) :
    f.readMembers room p ((q, d) :: rest) = .ok p' ↔
      (∀ field, f.fields.find? (·.name = name) = some field → field.given p = false) ∧
        ∃ put, f.reader name room d = .ok put ∧ f.readMembers room (put p) rest = .ok p' := by
  unfold reader
  constructor
  · intro h
    obtain ⟨n, put, key', after, ⟨field, found, fresh, value⟩ | ⟨unknown, value⟩⟩ :=
      readMembers_cons h
    all_goals obtain rfl : n = name := Except.ok.inj (key'.symm.trans key)
    · rw [found]
      exact ⟨fun _ same => Option.some.inj same ▸ fresh, put, value, after⟩
    · rw [unknown]
      exact ⟨nofun, put, value, after⟩
  · rintro ⟨fresh, put, value, after⟩
    cases found : f.fields.find? (·.name = name) with
    | some field =>
      rw [found] at value
      rw [readMembers_of_field key found (fresh field found) value, after]
    | none =>
      rw [found] at value
      rw [readMembers_of_other key found value, after]

/-- Whether, for each field, there is at most one member of its name, or none if the field is held
already, and that can be read into it. -/
def Takes (f : RecordFormat P R) (member : P → String → Option Json) (room : Nat) (p : P)
    (members : List (Quoted × Draft)) : Prop :=
  ∀ name, name ∈ f.fields.map (·.name) →
    AtMostOnce (member p name).isSome (Draft.named name members) fun d =>
      ∃ put, f.reader name room d = .ok put

namespace Keeps

theorem reader (k : f.Keeps member) (name : String) : Puts member name (f.reader name) := by
  unfold RecordFormat.reader
  split
  · next field found =>
    obtain rfl : field.name = name := by simpa using List.find?_some found
    exact k.field field (List.mem_of_find?_eq_some found)
  · next unknown => exact k.other name (by simpa using List.find?_eq_none.mp unknown)

theorem takes_cons (k : f.Keeps member) {room : Nat} {p : P} {put : P → P} {q : Quoted} {d : Draft}
    {name : String} {rest : List (Quoted × Draft)} (key : q.read = .ok name)
    (read : f.reader name room d = .ok put) :
    Takes f member room p ((q, d) :: rest) ↔
      (name ∈ f.fields.map (·.name) → (member p name).isSome = false ∧
        ∃ put, f.reader name room d = .ok put) ∧ Takes f member room (put p) rest := by
  obtain ⟨v, -, puts⟩ := k.reader name room d put read
  refine atMostOnce_next_iff (Draft.named_cons key d rest) fun n _ => ?_
  rw [puts]
  split <;> rfl

theorem find?_of_known {name : String} (known : name ∈ f.fields.map (·.name)) :
    ∃ field ∈ f.fields, field.name = name ∧ f.fields.find? (·.name = name) = some field := by
  obtain ⟨named, among, same⟩ := List.mem_map.mp known
  have exists_one : (f.fields.find? (·.name = name)).isSome :=
    List.find?_isSome.mpr ⟨named, among, by simpa using same⟩
  obtain ⟨field, found⟩ := Option.isSome_iff_exists.mp exists_one
  exact ⟨field, List.mem_of_find?_eq_some found, by simpa using List.find?_some found, found⟩

/-- The members of an object can be read if and only if each field takes the members of its name.
Other members must not stand in the way. -/
theorem exists_readMembers_iff (k : f.Keeps member) {room : Nat}
    (given : ∀ field ∈ f.fields, ∀ p, field.given p = (member p field.name).isSome)
    (other : ∀ name d v, any room d = .ok v → ∃ put, f.other name room d = .ok put)
    {members : List (Quoted × Draft)} {vs : List (String × Json)}
    (values : anyMembers room members = .ok vs) {p : P} :
    (∃ p', f.readMembers room p members = .ok p') ↔ Takes f member room p members := by
  -- What is held after a member decides what the rest may have, so the induction is over all `p`.
  induction members generalizing p vs with
  | nil => exact iff_of_true ⟨p, rfl⟩ fun _ _ => atMostOnce_nil
  | cons m rest ih =>
    obtain ⟨q, d⟩ := m
    obtain ⟨name, v, vs, key, value, others, rfl⟩ := anyMembers_cons_eq_ok.mp values
    constructor
    · rintro ⟨p', h⟩
      obtain ⟨fresh, put, read, after⟩ := (readMembers_cons_iff key).mp h
      refine (takes_cons k key read).mpr ⟨fun known => ⟨?_, put, read⟩, (ih others).mp ⟨p', after⟩⟩
      obtain ⟨field, among, rfl, found⟩ := find?_of_known known
      rw [← given field among, fresh field found]
    · intro takes
      obtain ⟨put, read⟩ : ∃ put, f.reader name room d = .ok put := by
        by_cases known : name ∈ f.fields.map (·.name)
        · have first := takes name known
          rw [Draft.named_cons key, if_pos rfl, atMostOnce_cons] at first
          exact first.2.1
        · rw [reader_of_unknown known]
          exact other name d v value
      obtain ⟨fresh, takes⟩ := (takes_cons k key read).mp takes
      obtain ⟨p', after⟩ := (ih others).mpr takes
      refine ⟨p', (readMembers_cons_iff key).mpr ⟨fun field found => ?_, put, read, after⟩⟩
      have among := List.mem_of_find?_eq_some found
      obtain rfl : field.name = name := by simpa using List.find?_some found
      rw [given field among, (fresh (List.mem_map_of_mem among)).1]

end Keeps

end RecordFormat

end GraphIngest
