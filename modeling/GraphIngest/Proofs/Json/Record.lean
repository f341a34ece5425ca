import GraphIngest.Json.Record
import GraphIngest.Proofs.Json.Reader

/-!
# Fields of records

A record that was read holds what stands in the places of its fields, whichever form it was written
in. This is shown for one field of any format at a time.

## Main definitions

* `Draft.field?`: what stands in the place of a field.
* `RecordFormat.Filled`: a partly filled record into which the whole of a draft was read.
* `RecordFormat.Slot`: how a format keeps one of its fields.
* `RecordFormat.Slot.holds`: a field holds what stands in its place.
-/

namespace GraphIngest

namespace Draft

/-- The value of the first member of a name. -/
def member? (name : String) : List (Quoted × Draft) → Option Draft
  | [] => none
  | (q, d) :: rest => if q.read.toOption = some name then some d else member? name rest

/-- What stands in the place of a field: the member of its name, or the item in its place. -/
def field? (place : Nat) (name : String) : Draft → Option Draft
  | .object members _ => member? name members
  | .array items _ => items[place]?
  | _ => none

end Draft

namespace RecordFormat

variable {P R α β : Type} {f : RecordFormat P R} {room place : Nat} {name : String} {p p' : P}

/-- A partly filled record into which the whole of a draft was read. -/
def Filled (f : RecordFormat P R) (room : Nat) : Draft → P → Prop
  | .object members _, p => f.readMembers room f.empty members = .ok p
  | .array items _, p =>
    ∃ place rest, readItems room 0 f.empty f.fields items = .ok (p, place, rest)
  | _, _ => False

theorem complete_of_readList {items : List Draft} {ending : ListEnd} {r : R}
    (h : f.readList room items ending = .ok r) :
    ∃ p place rest, readItems room 0 f.empty f.fields items = .ok (p, place, rest) ∧
      f.complete (fun i _ => .wrongLength i f.expectedLength) p = .ok r := by
  obtain ⟨⟨p, place, rest⟩, filled, h⟩ := Except.bind_eq_ok.mp h
  refine ⟨p, place, rest, filled, ?_⟩
  have completed : ∃ r', (f.complete (fun i _ => .wrongLength i f.expectedLength) p).mapError
      ReadError.ofMismatch = .ok r' ∧ r' = r := by
    dsimp only at h
    split at h
    · obtain ⟨-, -, h⟩ := Except.bind_eq_ok.mp h
      obtain ⟨r', complete, h⟩ := Except.bind_eq_ok.mp h
      exact ⟨r', complete, Except.eq_of_guarded h⟩
    · obtain ⟨r', complete, h⟩ := Except.bind_eq_ok.mp h
      exact ⟨r', complete, Except.eq_of_guarded h⟩
  obtain ⟨r', complete, rfl⟩ := completed
  exact Except.mapError_eq_ok.mp complete

/-- A record that was read is completed from one that was filled. -/
theorem exists_filled_of_read {d : Draft} {r : R} (h : f.read room d = .ok r) :
    ∃ left p absent, room = left + 1 ∧ f.Filled left d p ∧ f.complete absent p = .ok r := by
  match d with
  | .object members ending =>
    obtain ⟨left, entered, h⟩ := Except.bind_eq_ok.mp h
    obtain ⟨p, filled, h⟩ := Except.bind_eq_ok.mp h
    obtain ⟨-, -, h⟩ := Except.bind_eq_ok.mp h
    exact ⟨left, p, missing, JsonReader.enter_eq_ok entered, filled, Except.mapError_eq_ok.mp h⟩
  | .array items ending =>
    simp only [read] at h
    split at h
    · obtain ⟨left, entered, h⟩ := Except.bind_eq_ok.mp h
      obtain ⟨p, place, rest, filled, complete⟩ := complete_of_readList h
      exact ⟨left, p, _, JsonReader.enter_eq_ok entered, ⟨place, rest, filled⟩, complete⟩
    · exact absurd h JsonReader.refuse_ne_ok
  | .null | .bool _ | .number _ | .text _ | .broken _ _ | .missing =>
    exact absurd h JsonReader.refuse_ne_ok

/-- A member of a field that was not given before is read into the field. -/
theorem readMembers_of_field {q : Quoted} {d : Draft} {rest : List (Quoted × Draft)}
    {field : RecordField P} {put : P → P} (key : q.read = .ok name)
    (found : f.fields.find? (·.name = name) = some field) (fresh : field.given p = false)
    (value : field.read room d = .ok put) :
    f.readMembers room p ((q, d) :: rest) = f.readMembers room (put p) rest := by
  have entry : JsonReader.under (.key name) (field.read room d) = .ok put :=
    JsonReader.under_eq_ok.mpr value
  rw [readMembers, JsonReader.key_eq_ok.mpr key]
  simp only [bind, Except.bind, found, fresh, entry]
  rfl

/-- A member that no field is known for is read as the format says. -/
theorem readMembers_of_other {q : Quoted} {d : Draft} {rest : List (Quoted × Draft)}
    {put : P → P} (key : q.read = .ok name) (unknown : f.fields.find? (·.name = name) = none)
    (value : f.other name room d = .ok put) :
    f.readMembers room p ((q, d) :: rest) = f.readMembers room (put p) rest := by
  have entry : JsonReader.under (f.otherStep name) (f.other name room d) = .ok put :=
    JsonReader.under_eq_ok.mpr value
  rw [readMembers, JsonReader.key_eq_ok.mpr key]
  simp only [bind, Except.bind, unknown, entry]

/-- A member is either one of a field that was not given before, or one that no field is known
for. -/
theorem readMembers_cons {q : Quoted} {d : Draft} {rest : List (Quoted × Draft)}
    (h : f.readMembers room p ((q, d) :: rest) = .ok p') :
    ∃ n put, q.read = .ok n ∧ f.readMembers room (put p) rest = .ok p' ∧
      ((∃ field, f.fields.find? (·.name = n) = some field ∧ field.given p = false ∧
        field.read room d = .ok put) ∨
      f.fields.find? (·.name = n) = none ∧ f.other n room d = .ok put) := by
  obtain ⟨n, key, h⟩ := Except.bind_eq_ok.mp h
  split at h
  · rename_i field found
    split at h
    · cases h
    · rename_i given
      obtain ⟨put, value, h⟩ := Except.bind_eq_ok.mp h
      exact ⟨n, put, JsonReader.key_eq_ok.mp key, h,
        .inl ⟨field, found, by simpa using given, JsonReader.under_eq_ok.mp value⟩⟩
  · rename_i unknown
    obtain ⟨put, value, h⟩ := Except.bind_eq_ok.mp h
    exact ⟨n, put, JsonReader.key_eq_ok.mp key, h,
      .inr ⟨unknown, JsonReader.under_eq_ok.mp value⟩⟩

/-- An item is one of the next field. -/
theorem readItems_cons {field : RecordField P} {fields : List (RecordField P)} {d : Draft}
    {rest : List Draft} {out : P × Nat × List Draft}
    (h : readItems room place p (field :: fields) (d :: rest) = .ok out) :
    ∃ put, field.read room d = .ok put ∧
      readItems room (place + 1) (put p) fields rest = .ok out := by
  obtain ⟨put, value, h⟩ := Except.bind_eq_ok.mp h
  exact ⟨put, JsonReader.under_eq_ok.mp value, h⟩

/-! ## One field -/

/-- Whether nothing that a field reads changes what another one holds. -/
def Leaves (get : P → Option α) (read : JsonReader (P → P)) : Prop :=
  ∀ room d put, read room d = .ok put → ∀ p, get (put p) = get p

/-- A field that is set does not touch another one. -/
theorem leaves_of {get : P → Option α} {read : JsonReader β} {get' : P → Option β}
    {set' : P → β → P} (apart : ∀ p v, get (set' p v) = get p) :
    Leaves get (RecordField.of name read get' set').read := by
  intro room d put h p
  obtain ⟨v, -, rfl⟩ := Except.map_eq_ok.mp h
  exact apart p v

/-- A member that is passed over touches no field. -/
theorem leaves_skip {get : P → Option α} :
    Leaves get fun _ d => do JsonReader.here d.skip; return id := by
  intro room d put h p
  obtain ⟨-, -, h⟩ := Except.bind_eq_ok.mp h
  obtain rfl := Except.ok.inj h
  rfl

/-- How a format keeps a field that is read by a reader: it is empty at first, only its own value is
put in, and no other field has its name. -/
structure Slot (f : RecordFormat P R) (place : Nat) (name : String) (read : JsonReader α)
    (get : P → Option α) (set : P → α → P) : Prop where
  at_place : ∃ earlier later, earlier.length = place ∧
    f.fields = earlier ++ .of name read get set :: later ∧
    (∀ field ∈ earlier, field.name ≠ name ∧ Leaves get field.read) ∧
    ∀ field ∈ later, field.name ≠ name ∧ Leaves get field.read
  empty : get f.empty = none
  put : ∀ p v, get (set p v) = some v
  other : ∀ name, Leaves get (f.other name)

/-- Whether a field that was empty holds what was read from its place, if anything stands there. -/
def Holds (read : JsonReader α) (room : Nat) (place : Option Draft) (held : Option α) : Prop :=
  match place with
  | none => held = none
  | some d => ∃ v, read room d = .ok v ∧ held = some v

namespace Slot

variable {read : JsonReader α} {get : P → Option α} {set : P → α → P}

/-- The only field of a format. -/
theorem of_single (fields : f.fields = [.of name read get set]) (empty : get f.empty = none)
    (put : ∀ p v, get (set p v) = some v) (other : ∀ name, Leaves get (f.other name)) :
    Slot f 0 name read get set where
  at_place := ⟨[], [], rfl, fields, by simp, by simp⟩
  empty := empty
  put := put
  other := other

/-- What is read into a field is what it then holds. -/
theorem get_put (s : Slot f place name read get set) {d : Draft} {put : P → P}
    (h : (RecordField.of name read get set).read room d = .ok put) :
    ∃ v, read room d = .ok v ∧ ∀ p, get (put p) = some v := by
  obtain ⟨v, value, rfl⟩ := Except.map_eq_ok.mp h
  exact ⟨v, value, fun p => s.put p v⟩

/-- A field is found by its name, and no other field is. -/
theorem find_eq (s : Slot f place name read get set) :
    f.fields.find? (·.name = name) = some (.of name read get set) := by
  obtain ⟨earlier, later, -, fields, before, -⟩ := s.at_place
  rw [fields, List.find?_append, List.find?_eq_none.mpr]
  · simp [RecordField.of]
  · intro field among
    simpa using (before field among).1

theorem leaves_of_find (s : Slot f place name read get set) {n : String} {field : RecordField P}
    (other : n ≠ name) (h : f.fields.find? (·.name = n) = some field) : Leaves get field.read := by
  obtain ⟨earlier, later, -, fields, before, after⟩ := s.at_place
  have named : field.name = n := by simpa using List.find?_some h
  have among := List.mem_of_find?_eq_some h
  rw [fields, List.mem_append, List.mem_cons] at among
  obtain inBefore | rfl | inAfter := among
  · exact (before field inBefore).2
  · exact absurd named.symm other
  · exact (after field inAfter).2

/-- A member is the one of the field, which was empty then, or leaves the field alone. -/
theorem member_cases (s : Slot f place name read get set) {q : Quoted} {d : Draft}
    {rest : List (Quoted × Draft)} (h : f.readMembers room p ((q, d) :: rest) = .ok p') :
    ∃ put : P → P, f.readMembers room (put p) rest = .ok p' ∧
      ((q.read.toOption = some name ∧ get p = none ∧
        ∃ v, read room d = .ok v ∧ get (put p) = some v) ∨
      q.read.toOption ≠ some name ∧ get (put p) = get p) := by
  obtain ⟨n, put, key, after, member⟩ := readMembers_cons h
  refine ⟨put, after, ?_⟩
  by_cases same : n = name
  · subst same
    rw [s.find_eq] at member
    obtain ⟨field, found, empty, value⟩ | ⟨unknown, -⟩ := member
    · obtain rfl := Option.some.inj found
      obtain ⟨v, value, put_p⟩ := s.get_put value
      exact .inl ⟨by simp [key, Except.toOption], by simpa [RecordField.of] using empty,
        v, value, put_p p⟩
    · simp at unknown
  · refine .inr ⟨by simpa [key, Except.toOption] using same, ?_⟩
    obtain ⟨field, found, -, value⟩ | ⟨-, value⟩ := member
    · exact s.leaves_of_find same found room d put value p
    · exact s.other n room d put value p

/-- A field that was given stays as it is. -/
theorem get_of_given (s : Slot f place name read get set) {members : List (Quoted × Draft)}
    {v : α} (given : get p = some v) (h : f.readMembers room p members = .ok p') :
    get p' = some v := by
  induction members generalizing p with
  | nil =>
    obtain rfl : p = p' := Except.ok.inj h
    exact given
  | cons m rest ih =>
    obtain ⟨put, after, ⟨-, empty, -⟩ | ⟨-, left⟩⟩ := s.member_cases h
    · simp [given] at empty
    · exact ih (left.trans given) after

theorem holds_of_members (s : Slot f place name read get set) {members : List (Quoted × Draft)}
    (empty : get p = none) (h : f.readMembers room p members = .ok p') :
    Holds read room (Draft.member? name members) (get p') := by
  induction members generalizing p with
  | nil =>
    obtain rfl : p = p' := Except.ok.inj h
    exact empty
  | cons m rest ih =>
    obtain ⟨put, after, ⟨named, -, v, value, given⟩ | ⟨unnamed, left⟩⟩ := s.member_cases h
    · rw [Draft.member?, if_pos named]
      exact ⟨v, value, s.get_of_given given after⟩
    · rw [Draft.member?, if_neg unnamed]
      exact ih (left.trans empty) after

/-- Fields that leave a field alone do so together. -/
theorem get_of_left {fields : List (RecordField P)} {items : List Draft}
    {out : P × Nat × List Draft} (others : ∀ field ∈ fields, Leaves get field.read)
    (h : readItems room place p fields items = .ok out) : get out.1 = get p := by
  induction fields generalizing p place items with
  | nil =>
    obtain rfl := Except.ok.inj h
    rfl
  | cons field fields ih =>
    cases items with
    | nil =>
      obtain rfl := Except.ok.inj h
      rfl
    | cons d rest =>
      obtain ⟨put, value, after⟩ := readItems_cons h
      rw [ih (fun field later => others field (by simp [later])) after]
      exact others field (by simp) room d put value p

theorem holds_of_items (s : Slot f place name read get set) {first : Nat}
    {earlier later : List (RecordField P)} {items : List Draft} {out : P × Nat × List Draft}
    (before : ∀ field ∈ earlier, Leaves get field.read)
    (after : ∀ field ∈ later, Leaves get field.read) (empty : get p = none)
    (h : readItems room first p (earlier ++ .of name read get set :: later) items = .ok out) :
    Holds read room items[earlier.length]? (get out.1) := by
  induction earlier generalizing p first items with
  | nil =>
    cases items with
    | nil =>
      obtain rfl := Except.ok.inj h
      exact empty
    | cons d rest =>
      obtain ⟨put, value, others⟩ := readItems_cons h
      obtain ⟨v, value, put_p⟩ := s.get_put value
      exact ⟨v, value, (get_of_left after others).trans (put_p p)⟩
  | cons field earlier ih =>
    cases items with
    | nil =>
      obtain rfl := Except.ok.inj h
      exact empty
    | cons d rest =>
      obtain ⟨put, value, others⟩ := readItems_cons h
      refine ih (fun field among => before field (by simp [among])) ?_ others
      rw [before field (by simp) room d put value p, empty]

/-- A field of a record that was read holds what stands in its place. -/
theorem holds (s : Slot f place name read get set) {d : Draft} (h : f.Filled room d p) :
    Holds read room (d.field? place name) (get p) := by
  match d with
  | .object members ending => exact s.holds_of_members s.empty h
  | .array items ending =>
    obtain ⟨earlier, later, rfl, fields, before, after⟩ := s.at_place
    obtain ⟨_, _, filled⟩ := h
    rw [fields] at filled
    exact s.holds_of_items (fun field among => (before field among).2)
      (fun field among => (after field among).2) s.empty filled
  | .null | .bool _ | .number _ | .text _ | .broken _ _ | .missing => exact h.elim

end Slot

end RecordFormat

end GraphIngest
