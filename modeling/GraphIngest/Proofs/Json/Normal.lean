import GraphIngest.Proofs.Json.Record
import GraphIngest.Proofs.Json.Written

/-!
# Reading back

A value whose numbers are read back is read back from its compact text: its objects come out sorted,
with the last of equal names. A value that was read is in that form already, so it comes back as it
is.

## Main definitions

* `Json.Sorted`: members in the order of their names, each name once.
* `Json.normal`: a value with its objects sorted.
* `Json.depth`: how deeply a value is nested.
* `JsonReader.run_render`: the compact text of a value is read as its draft.
* `JsonReader.any_run_render`: so it is read back in normal form.
* `JsonReader.any_normal`: values that were read are in normal form.
-/

namespace GraphIngest

namespace Json

/-! ## Members -/

variable {members : List (String × Json)} {name other : String} {v : Json}

/-- Members in the order of their names, each name once. -/
def Sorted (members : List (String × Json)) : Prop := members.Pairwise (·.1 < ·.1)

theorem mem_insertMember {m : String × Json} (h : m ∈ insertMember name v members) :
    m = (name, v) ∨ m ∈ members := by
  induction members with
  | nil => simpa [insertMember] using h
  | cons first rest ih =>
    rw [insertMember] at h
    split at h
    · simpa using h
    · split at h
      · rcases List.mem_cons.mp h with rfl | later
        · exact .inl rfl
        · exact .inr (List.mem_cons_of_mem _ later)
      · rcases List.mem_cons.mp h with rfl | later
        · exact .inr List.mem_cons_self
        · exact (ih later).imp_right (List.mem_cons_of_mem _)

theorem Sorted.insertMember (sorted : Sorted members) : Sorted (insertMember name v members) := by
  induction members with
  | nil => simp [Sorted, Json.insertMember]
  | cons first rest ih =>
    obtain ⟨below, tail⟩ := List.pairwise_cons.mp sorted
    rw [Json.insertMember]
    split
    · next less =>
      refine List.pairwise_cons.mpr ⟨fun m among => ?_, sorted⟩
      rcases List.mem_cons.mp among with rfl | later
      · exact less
      · exact String.lt_trans less (below m later)
    · next notLess =>
      split
      · next same =>
        refine List.pairwise_cons.mpr ⟨fun m among => ?_, tail⟩
        exact same ▸ below m among
      · next differs =>
        refine List.pairwise_cons.mpr ⟨fun m among => ?_, ih tail⟩
        rcases mem_insertMember among with rfl | later
        · exact Std.lt_of_le_of_ne (String.not_lt.mp notLess) (Ne.symm differs)
        · exact below m later

/-- A member that comes after all others is put at the end. -/
theorem insertMember_of_above (above : ∀ m ∈ members, m.1 < name) :
    insertMember name v members = members ++ [(name, v)] := by
  induction members with
  | nil => rfl
  | cons first rest ih =>
    have less := above first (by simp)
    have notLess : ¬ name < first.1 := fun h => String.lt_irrefl _ (String.lt_trans h less)
    have differs : name ≠ first.1 := fun h => String.lt_irrefl _ (h ▸ less)
    rw [insertMember, if_neg notLess, if_neg differs, ih fun m among => above m (by simp [among])]
    rfl

theorem lookup_cons_eq {m : String × Json} :
    (m :: members).lookup name = if name = m.1 then some m.2 else members.lookup name := by
  rw [List.lookup_cons]
  by_cases h : name = m.1
  · simp [h]
  · simp [h, beq_eq_false_iff_ne.mpr h]

theorem lookup_insertMember : (insertMember name v members).lookup other =
    if other = name then some v else members.lookup other := by
  induction members with
  | nil => exact lookup_cons_eq
  | cons first rest ih =>
    rw [insertMember]
    split
    · exact lookup_cons_eq
    · split
      · next same => simp only [lookup_cons_eq, same]; split <;> rfl
      · next differs =>
        simp only [lookup_cons_eq, ih]
        by_cases h : other = first.1
        · have other_ne : other ≠ name := fun same => differs (same.symm.trans h)
          simp [h, h ▸ other_ne]
        · simp [h]

/-- The members of an object of given members. -/
def sortMembers (members : List (String × Json)) : List (String × Json) :=
  members.foldl (fun sorted m => insertMember m.1 m.2 sorted) []

theorem ofMembers_eq (members : List (String × Json)) :
    ofMembers members = object (sortMembers members) := rfl

theorem sorted_sortMembers (members : List (String × Json)) : Sorted (sortMembers members) := by
  refine List.foldlRecOn members _ (motive := Sorted) List.Pairwise.nil ?_
  exact fun _ sorted _ _ => sorted.insertMember

theorem mem_of_mem_sortMembers {m : String × Json} (h : m ∈ sortMembers members) :
    m ∈ members := by
  refine List.foldlRecOn members _ (motive := fun l => ∀ m ∈ l, m ∈ members) (by simp) ?_ m h
  intro l all new among m inserted
  rcases mem_insertMember inserted with rfl | old
  · exact among
  · exact all m old

theorem sortMembers_of_sorted (sorted : Sorted members) : sortMembers members = members := by
  suffices h : ∀ front, Sorted (front ++ members) →
      members.foldl (fun sorted m => insertMember m.1 m.2 sorted) front = front ++ members from
    h [] sorted
  clear sorted
  intro front sorted
  induction members generalizing front with
  | nil => simp
  | cons m rest ih =>
    have above : ∀ x ∈ front, x.1 < m.1 := fun x among =>
      (List.pairwise_append.mp sorted).2.2 x among m (by simp)
    rw [List.foldl_cons, insertMember_of_above above, ih _ (by simpa using sorted)]
    simp

/-- The last of equal names counts. -/
theorem lookup_sortMembers : (sortMembers members).lookup name = members.reverse.lookup name := by
  rw [sortMembers, ← List.foldr_reverse]
  induction members.reverse with
  | nil => rfl
  | cons m rest ih =>
    rw [List.foldr_cons, lookup_insertMember, ih, lookup_cons_eq]

/-! ## Normal forms -/

mutual

/-- A value with its objects sorted, with the last of equal names. -/
def normal : Json → Json
  | array items => array (normalItems items)
  | object members => ofMembers (normalMembers members)
  | .null => .null
  | bool b => bool b
  | number n => number n
  | text s => text s

def normalItems : List Json → List Json
  | [] => []
  | v :: rest => normal v :: normalItems rest

def normalMembers : List (String × Json) → List (String × Json)
  | [] => []
  | (name, v) :: rest => (name, normal v) :: normalMembers rest

end

mutual

/-- How many containers are around the innermost part of a value. -/
def depth : Json → Nat
  | array items => depthItems items + 1
  | object members => depthMembers members + 1
  | null | bool _ | number _ | text _ => 0

def depthItems : List Json → Nat
  | [] => 0
  | v :: rest => max (depth v) (depthItems rest)

def depthMembers : List (String × Json) → Nat
  | [] => 0
  | (_, v) :: rest => max (depth v) (depthMembers rest)

end

theorem depthItems_le_iff {items : List Json} {n : Nat} :
    depthItems items ≤ n ↔ ∀ v ∈ items, v.depth ≤ n := by
  induction items with
  | nil => simp [depthItems]
  | cons v rest ih => rw [depthItems, Nat.max_le, ih, List.forall_mem_cons]

theorem depthMembers_le_iff {n : Nat} :
    depthMembers members ≤ n ↔ ∀ m ∈ members, m.2.depth ≤ n := by
  induction members with
  | nil => simp [depthMembers]
  | cons m rest ih => rw [depthMembers, Nat.max_le, ih, List.forall_mem_cons]

theorem normalItems_eq (items : List Json) : normalItems items = items.map normal := by
  induction items with
  | nil => rfl
  | cons v rest ih => rw [normalItems, ih, List.map_cons]

theorem normalMembers_eq (members : List (String × Json)) :
    normalMembers members = members.map fun m => (m.1, m.2.normal) := by
  induction members with
  | nil => rfl
  | cons m rest ih => rw [normalMembers, ih, List.map_cons]

theorem normalItems_of_normal {items : List Json} (each : ∀ v ∈ items, v.normal = v) :
    normalItems items = items := by
  rw [normalItems_eq]
  exact (List.map_congr_left each).trans (List.map_id items)

theorem normalMembers_of_normal (each : ∀ m ∈ members, m.2.normal = m.2) :
    normalMembers members = members := by
  rw [normalMembers_eq]
  refine (List.map_congr_left fun m among => ?_).trans (List.map_id members)
  rw [each m among]
  rfl

/-- An object of values in normal form is in normal form. -/
theorem normal_ofMembers (each : ∀ m ∈ members, m.2.normal = m.2) :
    (ofMembers members).normal = ofMembers members := by
  rw [ofMembers_eq, normal,
    normalMembers_of_normal fun m among => each m (mem_of_mem_sortMembers among), ofMembers_eq,
    sortMembers_of_sorted (sorted_sortMembers members)]

/-- Sorting members and leaving some of them out keeps the numbers of the others. -/
theorem Faithful.normal {v : Json} (faithful : v.Faithful) : v.normal.Faithful := by
  induction v using Json.induction with
  | null | bool | number | text => exact faithful
  | array items ih =>
    rw [Json.normal, normalItems_eq, faithful_array, List.forall_mem_map]
    intro v among
    exact ih v among (faithful_array.mp faithful v among)
  | object members ih =>
    rw [Json.normal, normalMembers_eq, ofMembers_eq, faithful_object]
    intro m among
    obtain ⟨given, kept, rfl⟩ := List.mem_map.mp (mem_of_mem_sortMembers among)
    exact ih given kept (faithful_object.mp faithful given kept)

end Json

/-! ## Reading what is written -/

namespace JsonReader

open Json

variable {room : Nat}

theorem any_number {n : JsonNumber} (faithful : n.ReadsBack) :
    any room (Draft.ofJson (number n)) = .ok (number n) := by
  rw [Draft.ofJson, any, faithful.value]
  rfl

theorem anyItems_ofItems {items : List Json}
    (each : ∀ v ∈ items, any room (Draft.ofJson v) = .ok v.normal) (index : Nat) :
    anyItems room index (Draft.ofItems items) = .ok (normalItems items) := by
  induction items generalizing index with
  | nil => rfl
  | cons v rest ih =>
    have others := ih (fun w among => each w (by simp [among])) (index + 1)
    rw [Draft.ofItems, anyItems, each v (by simp), others]
    rfl

theorem anyMembers_ofMembers {members : List (String × Json)}
    (each : ∀ m ∈ members, any room (Draft.ofJson m.2) = .ok m.2.normal) :
    anyMembers room (Draft.ofMembers members) = .ok (normalMembers members) := by
  induction members with
  | nil => rfl
  | cons m rest ih =>
    have others := ih fun x among => each x (by simp [among])
    rw [Draft.ofMembers, anyMembers, each m (by simp), others, key, Quoted.read_ofText]
    rfl

theorem any_ofJson {v : Json} (faithful : v.Faithful) (fits : v.depth ≤ room) :
    any room (Draft.ofJson v) = .ok v.normal := by
  induction v using Json.induction generalizing room with
  | null | bool => rfl
  | number n => exact any_number faithful
  | text s =>
    rw [Draft.ofJson, any, Quoted.read_ofText]
    rfl
  | array items ih =>
    cases room with
    | zero => simp [depth] at fits
    | succ room =>
      have each : ∀ v ∈ items, any room (Draft.ofJson v) = .ok v.normal := fun v among =>
        ih v among (faithful_array.mp faithful v among)
          (depthItems_le_iff.mp (Nat.le_of_succ_le_succ fits) v among)
      rw [Draft.ofJson, any, enter]
      simp only [bind, Except.bind, anyItems_ofItems each]
      rfl
  | object members ih =>
    cases room with
    | zero => simp [depth] at fits
    | succ room =>
      have each : ∀ m ∈ members, any room (Draft.ofJson m.2) = .ok m.2.normal := fun m among =>
        ih m among (faithful_object.mp faithful m among)
          (depthMembers_le_iff.mp (Nat.le_of_succ_le_succ fits) m among)
      rw [Draft.ofJson, any, enter]
      simp only [bind, Except.bind, anyMembers_ofMembers each]
      rfl

/-- The compact text of a value is read as its draft. -/
theorem run_render {α : Type} (read : JsonReader α) (v : Json) :
    read.run (Symbol.ofString v.render) = read greatestDepth (Draft.ofJson v) := by
  rw [run, Draft.build_render]
  simp only [List.isEmpty_nil, if_true]
  cases read greatestDepth (Draft.ofJson v) <;> rfl

/-- A value that is not nested too deeply is read back from its compact text. -/
theorem any_run_render {v : Json} (faithful : v.Faithful) (fits : v.depth ≤ greatestDepth) :
    any.run (Symbol.ofString v.render) = .ok v.normal := by
  rw [run_render, any_ofJson faithful fits]

/-! ## Typed values that are written -/

theorem text_ofText (s : String) : text room (Draft.ofJson (.text s)) = .ok s := by
  rw [Draft.ofJson, text, Quoted.read_ofText]
  rfl

theorem list_ofItems_map {α β : Type} {read : JsonReader β} {value : α → Json} {g : α → β}
    {as : List α} (each : ∀ a ∈ as, read room (Draft.ofJson (value a)) = .ok (g a)) :
    list read (room + 1) (Draft.ofJson (.array (as.map value))) = .ok (as.map g) := by
  have all (index : Nat) :
      items (read room) index (Draft.ofItems (as.map value)) = .ok (as.map g) := by
    induction as generalizing index with
    | nil => rfl
    | cons a rest ih =>
      obtain ⟨first, others⟩ := List.forall_mem_cons.mp each
      rw [List.map_cons, Draft.ofItems, items, first, ih others]
      rfl
  rw [Draft.ofJson, list, enter]
  simp only [bind, Except.bind, all]
  rfl

theorem list_ofItems {α : Type} {read : JsonReader α} {value : α → Json}
    (each : ∀ a, read room (Draft.ofJson (value a)) = .ok a) (as : List α) :
    list read (room + 1) (Draft.ofJson (.array (as.map value))) = .ok as := by
  simpa using list_ofItems_map (g := id) fun a (_ : a ∈ as) => each a

end JsonReader

namespace RecordFormat

open Json

variable {P R : Type} {f : RecordFormat P R} {room : Nat} {p : P} {members : List (String × Json)}

/-- A member that is written for a field is read into the field. -/
theorem readMembers_ofMembers {name : String} {v : Json} {field : RecordField P} {put : P → P}
    (found : f.fields.find? (·.name = name) = some field) (fresh : field.given p = false)
    (value : field.read room (Draft.ofJson v) = .ok put) :
    f.readMembers room p (Draft.ofMembers ((name, v) :: members)) =
      f.readMembers room (put p) (Draft.ofMembers members) :=
  readMembers_of_field (Quoted.read_ofText name) found fresh value

/-- A member that is written for no field is read as the format says. -/
theorem readMembers_ofMembers_other {name : String} {v : Json} {put : P → P}
    (unknown : f.fields.find? (·.name = name) = none)
    (value : f.other name room (Draft.ofJson v) = .ok put) :
    f.readMembers room p (Draft.ofMembers ((name, v) :: members)) =
      f.readMembers room (put p) (Draft.ofMembers members) :=
  readMembers_of_other (Quoted.read_ofText name) unknown value

/-- A record is read from its members. -/
theorem read_object {ds : List (Quoted × Draft)} {r : R}
    (filled : f.readMembers room f.empty ds = .ok p) (complete : f.complete missing p = .ok r) :
    f.read (room + 1) (.object ds .closed) = .ok r := by
  rw [read, JsonReader.enter]
  simp only [bind, Except.bind, readObject, filled, JsonReader.objectEnd, complete]
  rfl

/-- A record is read from the members that are written for it. -/
theorem read_ofMembers {r : R}
    (filled : f.readMembers room f.empty (Draft.ofMembers members) = .ok p)
    (complete : f.complete missing p = .ok r) :
    f.read (room + 1) (Draft.ofJson (.object members)) = .ok r :=
  read_object filled complete

end RecordFormat

/-! ## What was read -/

/-- Induction over a draft and all drafts in it. -/
@[elab_as_elim]
theorem Draft.induction {P : Draft → Prop} (null : P .null) (bool : ∀ b, P (.bool b))
    (number : ∀ n, P (.number n)) (text : ∀ q, P (.text q))
    (array : ∀ items ending, (∀ d ∈ items, P d) → P (.array items ending))
    (object : ∀ members ending, (∀ m ∈ members, P m.2) → P (.object members ending))
    (broken : ∀ whenRead whenSkipped, P (.broken whenRead whenSkipped))
    (missing : P .missing) : ∀ d, P d
  | .null => null
  | .bool b => bool b
  | .number n => number n
  | .text q => text q
  | .array items ending => array items ending fun d _ =>
    Draft.induction null bool number text array object broken missing d
  | .object members ending => object members ending fun m _ =>
    Draft.induction null bool number text array object broken missing m.2
  | .broken whenRead whenSkipped => broken whenRead whenSkipped
  | .missing => missing
termination_by d => sizeOf d
decreasing_by
  · have := List.sizeOf_lt_of_mem ‹_ ∈ items›
    simp
    omega
  · have := List.sizeOf_lt_of_mem ‹_ ∈ members›
    have : sizeOf m.2 < sizeOf m := by cases m; simp only [Prod.mk.sizeOf_spec]; omega
    simp
    omega

namespace JsonReader

open Json

variable {room : Nat}

theorem any_array_eq_ok {ds : List Draft} {ending : ListEnd} {v : Json}
    (h : any room (.array ds ending) = .ok v) :
    ∃ left vs, enter room = .ok left ∧ anyItems left 0 ds = .ok vs ∧
      here (listEnd ending) = .ok () ∧ v = .array vs := by
  rw [any] at h
  obtain ⟨left, entered, h⟩ := Except.bind_eq_ok.mp h
  obtain ⟨vs, items, h⟩ := Except.bind_eq_ok.mp h
  obtain ⟨u, ended, h⟩ := Except.bind_eq_ok.mp h
  exact ⟨left, vs, entered, items, under_eq_ok.mp ended, (Except.ok.inj h).symm⟩

theorem any_object_eq_ok {ms : List (Quoted × Draft)} {ending : ObjectEnd} {v : Json}
    (h : any room (.object ms ending) = .ok v) :
    ∃ left vs, enter room = .ok left ∧ anyMembers left ms = .ok vs ∧
      objectEnd atKey ending = .ok () ∧ v = .ofMembers vs := by
  rw [any] at h
  obtain ⟨left, entered, h⟩ := Except.bind_eq_ok.mp h
  obtain ⟨vs, members, h⟩ := Except.bind_eq_ok.mp h
  obtain ⟨u, ended, h⟩ := Except.bind_eq_ok.mp h
  exact ⟨left, vs, entered, members, ended, (Except.ok.inj h).symm⟩

theorem anyItems_cons_eq_ok {index : Nat} {d : Draft} {ds : List Draft} {vs : List Json}
    (h : anyItems room index (d :: ds) = .ok vs) :
    ∃ v rest, any room d = .ok v ∧ anyItems room (index + 1) ds = .ok rest ∧ vs = v :: rest := by
  rw [anyItems] at h
  obtain ⟨v, first, h⟩ := Except.bind_eq_ok.mp h
  obtain ⟨rest, others, h⟩ := Except.bind_eq_ok.mp h
  exact ⟨v, rest, under_eq_ok.mp first, others, (Except.ok.inj h).symm⟩

theorem anyMembers_cons_eq_ok {q : Quoted} {d : Draft} {ms : List (Quoted × Draft)}
    {vs : List (String × Json)} :
    anyMembers room ((q, d) :: ms) = .ok vs ↔ ∃ name v rest, q.read = .ok name ∧
      any room d = .ok v ∧ anyMembers room ms = .ok rest ∧ vs = (name, v) :: rest := by
  rw [anyMembers]
  constructor
  · intro h
    obtain ⟨name, named, h⟩ := Except.bind_eq_ok.mp h
    obtain ⟨v, first, h⟩ := Except.bind_eq_ok.mp h
    obtain ⟨rest, others, h⟩ := Except.bind_eq_ok.mp h
    exact ⟨name, v, rest, key_eq_ok.mp named, under_eq_ok.mp first, others,
      (Except.ok.inj h).symm⟩
  · rintro ⟨name, v, rest, named, first, others, rfl⟩
    rw [key_eq_ok.mpr named, first, others]
    rfl

theorem exists_of_anyItems {index : Nat} {ds : List Draft} {vs : List Json}
    (h : anyItems room index ds = .ok vs) : ∀ d ∈ ds, ∃ v, any room d = .ok v := by
  induction ds generalizing index vs with
  | nil => simp
  | cons d ds ih =>
    obtain ⟨v, rest, first, others, -⟩ := anyItems_cons_eq_ok h
    exact List.forall_mem_cons.mpr ⟨⟨v, first⟩, ih others⟩

theorem exists_of_anyMembers {ms : List (Quoted × Draft)} {vs : List (String × Json)}
    (h : anyMembers room ms = .ok vs) : ∀ m ∈ ms, ∃ v, any room m.2 = .ok v := by
  induction ms generalizing vs with
  | nil => simp
  | cons m ms ih =>
    obtain ⟨_, v, rest, -, first, others, -⟩ := anyMembers_cons_eq_ok.mp h
    exact List.forall_mem_cons.mpr ⟨⟨v, first⟩, ih others⟩

/-- A value that is read is not nested too deeply. -/
theorem depth_le_of_any_ofJson {v w : Json} (h : any room (Draft.ofJson v) = .ok w) :
    v.depth ≤ room := by
  induction v using Json.induction generalizing room w with
  | null | bool | number | text => exact Nat.zero_le _
  | array items ih =>
    obtain ⟨left, vs, entered, read, -, -⟩ := any_array_eq_ok h
    obtain rfl := enter_eq_ok entered
    apply Nat.succ_le_succ
    rw [depthItems_le_iff]
    intro v among
    rw [Draft.ofItems_eq] at read
    obtain ⟨w, value⟩ := exists_of_anyItems read _ (List.mem_map_of_mem among)
    exact ih v among value
  | object members ih =>
    obtain ⟨left, vs, entered, read, -, -⟩ := any_object_eq_ok h
    obtain rfl := enter_eq_ok entered
    apply Nat.succ_le_succ
    rw [depthMembers_le_iff]
    intro m among
    rw [Draft.ofMembers_eq] at read
    obtain ⟨w, value⟩ := exists_of_anyMembers read _ (List.mem_map_of_mem among)
    exact ih m among value

/-- A value is read from its draft, in normal form, if and only if it is not nested too deeply. -/
theorem any_ofJson_eq_ok_iff {v w : Json} (faithful : v.Faithful) :
    any room (Draft.ofJson v) = .ok w ↔ v.depth ≤ room ∧ w = v.normal := by
  constructor
  · intro h
    have fits := depth_le_of_any_ofJson h
    exact ⟨fits, Except.ok.inj (h.symm.trans (any_ofJson faithful fits))⟩
  · rintro ⟨fits, rfl⟩
    exact any_ofJson faithful fits

/-- What holds of each value that is read from an item holds of all of them. -/
theorem forall_of_anyItems {P : Json → Prop} {index : Nat} {ds : List Draft} {vs : List Json}
    (each : ∀ d ∈ ds, ∀ v, any room d = .ok v → P v) (h : anyItems room index ds = .ok vs) :
    ∀ v ∈ vs, P v := by
  induction ds generalizing index vs with
  | nil =>
    obtain rfl : [] = vs := Except.ok.inj h
    simp
  | cons d ds ih =>
    obtain ⟨v, rest, first, others, rfl⟩ := anyItems_cons_eq_ok h
    intro w among
    rcases List.mem_cons.mp among with rfl | later
    · exact each d (by simp) w first
    · exact ih (fun d among => each d (by simp [among])) others w later

/-- What holds of each value that is read from a member holds of all of them. -/
theorem forall_of_anyMembers {P : Json → Prop} {ms : List (Quoted × Draft)}
    {vs : List (String × Json)} (each : ∀ m ∈ ms, ∀ v, any room m.2 = .ok v → P v)
    (h : anyMembers room ms = .ok vs) : ∀ m ∈ vs, P m.2 := by
  induction ms generalizing vs with
  | nil =>
    obtain rfl : [] = vs := Except.ok.inj h
    simp
  | cons m ms ih =>
    obtain ⟨name, v, rest, -, first, others, rfl⟩ := anyMembers_cons_eq_ok.mp h
    intro w among
    rcases List.mem_cons.mp among with rfl | later
    · exact each m (by simp) v first
    · exact ih (fun m among => each m (by simp [among])) others w later

/-- A value that was read is in normal form, and nested as deeply as it may be. -/
theorem any_normal {d : Draft} {v : Json} (h : any room d = .ok v) :
    v.normal = v ∧ v.depth ≤ room := by
  induction d using Draft.induction generalizing room v with
  | null | bool =>
    obtain rfl := Except.ok.inj h
    exact ⟨rfl, Nat.zero_le _⟩
  | number n =>
    obtain ⟨_, -, rfl⟩ := Except.map_eq_ok.mp h
    exact ⟨rfl, Nat.zero_le _⟩
  | text q =>
    obtain ⟨_, -, rfl⟩ := Except.map_eq_ok.mp h
    exact ⟨rfl, Nat.zero_le _⟩
  | array ds ending ih =>
    obtain ⟨left, vs, entered, items, -, rfl⟩ := any_array_eq_ok h
    obtain rfl := enter_eq_ok entered
    have each := forall_of_anyItems (fun d among v read => ih d among read) items
    refine ⟨?_, Nat.succ_le_succ (depthItems_le_iff.mpr fun v among => (each v among).2)⟩
    rw [normal, normalItems_of_normal fun v among => (each v among).1]
  | object ms ending ih =>
    obtain ⟨left, vs, entered, members, -, rfl⟩ := any_object_eq_ok h
    obtain rfl := enter_eq_ok entered
    have each := forall_of_anyMembers (fun m among v read => ih m among read) members
    refine ⟨normal_ofMembers fun m among => (each m among).1, ?_⟩
    rw [ofMembers_eq, depth]
    exact Nat.succ_le_succ (depthMembers_le_iff.mpr fun m among =>
      (each m (mem_of_mem_sortMembers among)).2)
  | broken | missing => cases h

/-- A value that was read is read back from its compact text as it is. -/
theorem any_run_render_of_any {d : Draft} {v : Json} (h : any room d = .ok v)
    (fits : room ≤ greatestDepth) (faithful : v.Faithful) :
    any.run (Symbol.ofString v.render) = .ok v := by
  obtain ⟨normal, shallow⟩ := any_normal h
  rw [any_run_render faithful (Nat.le_trans shallow fits), normal]

end JsonReader

end GraphIngest
