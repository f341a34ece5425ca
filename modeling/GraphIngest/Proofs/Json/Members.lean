import GraphIngest.Graph.Json
import GraphIngest.Proofs.Json.Normal
import GraphIngest.Proofs.Json.Record

/-!
# Records that keep their members

Some formats keep every member of an object, whether or not they know a field for it. What they read
can be compared with the object itself, read as a value.

## Main definitions

* `JsonReader.Shows`: what a reader reads determines the value that it was read from.
* `RecordFormat.Keeps`: a format that keeps every member.
* `RecordFormat.Keeps.read`: the members that it keeps are those of the object.
-/

namespace GraphIngest

/-! ## Members of a value -/

namespace Json

/-- The member of a name, unless it is null. -/
def given? (name : String) (v : Json) : Option Json :=
  match v.get? name with
  | some .null => none
  | found => found

theorem get?_of_given? {name : String} {v w : Json} (h : v.given? name = some w) :
    v.get? name = some w := by
  unfold given? at h
  split at h
  · cases h
  · exact h

theorem mem_of_lookup {members : List (String × Json)} {name : String} {v : Json}
    (h : members.lookup name = some v) : (name, v) ∈ members := by
  obtain ⟨before, after, rfl, -⟩ := List.lookup_eq_some_iff.mp h
  simp

theorem get?_ofMembers {members : List (String × Json)} {name : String} :
    (ofMembers members).get? name = members.reverse.lookup name := lookup_sortMembers

end Json

namespace JsonReader

open Json

variable {α : Type} {room : Nat}

/-- A member of a value that was read was read itself. -/
theorem exists_any_of_get? {d : Draft} {v w : Json} {name : String} (h : any room d = .ok v)
    (found : v.get? name = some w) : ∃ left d', left ≤ room ∧ any left d' = .ok w := by
  cases d with
  | object ms ending =>
    obtain ⟨left, vs, entered, members, -, rfl⟩ := any_object_eq_ok h
    obtain rfl := enter_eq_ok entered
    have each := forall_of_anyMembers (P := fun w => ∃ d', any left d' = .ok w)
      (fun m _ w read => ⟨m.2, read⟩) members
    rw [get?_ofMembers] at found
    obtain ⟨d', read⟩ := each _ (List.mem_reverse.mp (mem_of_lookup found))
    exact ⟨left, d', Nat.le_succ left, read⟩
  | array ds ending =>
    obtain ⟨left, vs, -, -, -, rfl⟩ := any_array_eq_ok h
    simp [get?] at found
  | null | bool =>
    obtain rfl := Except.ok.inj h
    simp [get?] at found
  | number | text =>
    obtain ⟨_, -, rfl⟩ := Except.map_eq_ok.mp h
    simp [get?] at found
  | broken | missing => cases h

/-- Whether an end of an object is as it should be does not depend on the errors of its keys. -/
theorem objectEnd_eq_ok {afterKey afterKey' : String → Malformed → ReadError} {ending : ObjectEnd}
    (h : objectEnd afterKey ending = .ok ()) : objectEnd afterKey' ending = .ok () := by
  cases ending with
  | brokenKey q => exact h
  | keyThenEnd q | keyThenOther q =>
    simp only [objectEnd] at h
    split at h <;> cases h
  | closed | cut => rfl
  | _ => cases h

/-- Whether what a reader reads determines the value that it was read from. -/
def Shows (read : JsonReader α) (value : α → Json) : Prop :=
  ∀ room d a, read room d = .ok a → any room d = .ok (value a)

theorem text_shows : Shows text .text := by
  intro room d s h
  cases d with
  | text q => exact Except.map_eq_ok.mpr ⟨s, h, rfl⟩
  | _ => exact absurd h refuse_ne_ok

theorem any_eq_null {d : Draft} (h : any room d = .ok .null) : d = .null := by
  cases d with
  | null => rfl
  | bool | broken | missing => cases h
  | number | text =>
    obtain ⟨_, -, h⟩ := Except.map_eq_ok.mp h
    cases h
  | array ds ending =>
    obtain ⟨left, vs, -, -, -, h⟩ := any_array_eq_ok h
    cases h
  | object ms ending =>
    obtain ⟨left, vs, -, -, -, h⟩ := any_object_eq_ok h
    cases h

theorem optional_any_shows : Shows (optional any) (·.getD .null) := by
  intro room d v h
  obtain ⟨rfl, rfl⟩ | ⟨-, a, read, rfl⟩ := optional_eq_ok.mp h
  · rfl
  · exact read

end JsonReader

/-! ## Formats -/

namespace RecordFormat

open Json JsonReader

variable {P R α : Type} {f : RecordFormat P R} {member : P → String → Option Json}

/-- Whether a reader puts the value that it reads in as the member of a name, and leaves all other
members alone. -/
def Puts (member : P → String → Option Json) (name : String) (read : JsonReader (P → P)) : Prop :=
  ∀ room d put, read room d = .ok put →
    ∃ v, any room d = .ok v ∧ ∀ p n, member (put p) n = if n = name then some v else member p n

theorem puts_of {name : String} {read : JsonReader α} {value : α → Json} {get : P → Option α}
    {set : P → α → P} (shown : Shows read value)
    (sets : ∀ p v n, member (set p v) n = if n = name then some (value v) else member p n) :
    Puts member name (RecordField.of name read get set).read := by
  intro room d put h
  obtain ⟨a, value_read, rfl⟩ := Except.map_eq_ok.mp h
  exact ⟨value a, shown room d a value_read, fun p n => sets p a n⟩

/-- Whether a format keeps every member of an object. -/
structure Keeps (f : RecordFormat P R) (member : P → String → Option Json) : Prop where
  unlisted : f.listed = false
  empty : ∀ name, member f.empty name = none
  field : ∀ field ∈ f.fields, Puts member field.name field.read
  other : ∀ name, (∀ field ∈ f.fields, field.name ≠ name) → Puts member name (f.other name)

namespace Keeps

/-- What is read from a member becomes the member of its name. -/
theorem member_read (k : f.Keeps member) {room : Nat} {p p' : P} {q : Quoted} {d : Draft}
    {rest : List (Quoted × Draft)} (h : f.readMembers room p ((q, d) :: rest) = .ok p') :
    ∃ name v q', q.read = .ok name ∧ any room d = .ok v ∧
      (∀ n, member q' n = if n = name then some v else member p n) ∧
      f.readMembers room q' rest = .ok p' := by
  obtain ⟨name, put, key, others, ⟨field, found, -, value⟩ | ⟨unknown, value⟩⟩ :=
    readMembers_cons h
  · obtain rfl : field.name = name := by simpa using List.find?_some found
    obtain ⟨v, read, puts⟩ := k.field field (List.mem_of_find?_eq_some found) room d put value
    exact ⟨_, v, put p, key, read, puts p, others⟩
  · have apart : ∀ field ∈ f.fields, field.name ≠ name := by
      simpa using List.find?_eq_none.mp unknown
    obtain ⟨v, read, puts⟩ := k.other name apart room d put value
    exact ⟨_, v, put p, key, read, puts p, others⟩

/-- Members that are read one after another are kept; of equal names, the last is. -/
theorem readMembers (k : f.Keeps member) {room : Nat} {p p' : P} {ms : List (Quoted × Draft)}
    (h : f.readMembers room p ms = .ok p') :
    ∃ vs, anyMembers room ms = .ok vs ∧
      ∀ n, member p' n = (vs.reverse.lookup n).or (member p n) := by
  induction ms generalizing p with
  | nil =>
    obtain rfl : p = p' := Except.ok.inj h
    exact ⟨[], rfl, by simp⟩
  | cons m ms ih =>
    obtain ⟨name, v, q, key, value, puts, others⟩ := k.member_read h
    obtain ⟨vs, read, kept⟩ := ih others
    refine ⟨(name, v) :: vs, anyMembers_cons_eq_ok.mpr ⟨_, _, _, key, value, read, rfl⟩,
      fun n => ?_⟩
    rw [kept, puts, List.reverse_cons, List.lookup_append, Option.or_assoc, lookup_cons_eq]
    split <;> simp

/-- A record that was read is completed from one that keeps the members of the value. -/
theorem read (k : f.Keeps member) {room : Nat} {d : Draft} {r : R} (h : f.read room d = .ok r) :
    ∃ v p absent, any room d = .ok v ∧ (∀ n, member p n = v.get? n) ∧
      f.complete absent p = .ok r := by
  cases d with
  | object ms ending =>
    obtain ⟨left, entered, h⟩ := Except.bind_eq_ok.mp h
    obtain ⟨p, filled, h⟩ := Except.bind_eq_ok.mp h
    obtain ⟨_, ended, completed⟩ := Except.bind_eq_ok.mp h
    obtain ⟨vs, members, kept⟩ := k.readMembers filled
    refine ⟨.ofMembers vs, p, missing, ?_, fun n => ?_, Except.mapError_eq_ok.mp completed⟩
    · rw [any, entered]
      simp only [bind, Except.bind, members, objectEnd_eq_ok ended]
      rfl
    · rw [kept, k.empty, Option.or_none, get?_ofMembers]
  | array ds ending =>
    rw [RecordFormat.read, k.unlisted] at h
    exact absurd h refuse_ne_ok
  | _ => exact absurd h refuse_ne_ok

end Keeps

end RecordFormat

end GraphIngest
