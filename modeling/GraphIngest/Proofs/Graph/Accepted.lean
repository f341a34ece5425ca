import GraphIngest.Proofs.Graph.Node
import GraphIngest.Proofs.Json.Named

/-!
# Nodes that are accepted

A node is read from an object if and only if its identity is there and each of its members that a
node knows is there once at most and is what it should be. Neither the order of the members nor
those that a node does not know make a difference, although some members are read where they stand
and others are looked at only after all members were read.

## Main definitions

* `Numeral.integer?`: the integer that a numeral spells, if it has no fraction and no exponent.
* `Node.Accepts`: the members that a node is read from.
* `Node.exists_read_iff`: a node is read from these members and from no others, but for zeros with a
  minus sign.
* `Node.reads_what_it_accepts`: so it is for texts.
-/

namespace GraphIngest

open JsonReader RecordFormat

/-! ## Integers as they are spelled -/

namespace Numeral

/-- The integer that a numeral spells, if it has no fraction and no exponent. -/
def integer? (n : Numeral) : Option Int :=
  if n.fraction = [] ∧ n.exponent = none then
    some (if n.negative then -(Digit.natOf n.whole : Int) else Digit.natOf n.whole)
  else none

/-- Whether a numeral spells zero with a minus sign. Its value is a double, which keeps the sign. -/
def isMinusZero (n : Numeral) : Bool := n.negative && n.integer? = some 0

/-- Only a numeral that passes all tests has an integer as its value. -/
theorem value_eq_int {n : Numeral} {m : Int} : n.value = .ok (.int m) ↔
    (n.fraction = [] ∧ n.exponent = none ∧ ¬ (n.negative ∧ Digit.natOf n.whole = 0) ∧
      Digit.natOf n.whole ≤ (if n.negative then 9223372036854775808 else greatestUnsigned)) ∧
    (if n.negative then -(Digit.natOf n.whole : Int) else Digit.natOf n.whole) = m := by
  unfold value
  extract_lets k
  by_cases passes : n.fraction = [] ∧ n.exponent = none ∧ ¬ (n.negative ∧ k = 0) ∧
      k ≤ (if n.negative then 9223372036854775808 else greatestUnsigned)
  · rw [if_pos passes, and_iff_right passes, Except.ok.injEq, JsonNumber.int.injEq]
  · rw [if_neg passes]
    refine iff_of_false ?_ fun h => passes h.1
    cases n.double? <;> simp

/-- An integer of sixty-four bits is the value of those numerals that spell it, but for zero with a
minus sign. -/
theorem value_eq_int_iff {n : Numeral} {m : Int} (least : -9223372036854775808 ≤ m)
    (greatest : m ≤ 9223372036854775807) :
    n.value = .ok (.int m) ↔ n.integer? = some m ∧ n.isMinusZero = false := by
  rw [value_eq_int, isMinusZero, integer?, greatestUnsigned]
  by_cases plain : n.fraction = [] ∧ n.exponent = none
  · rw [if_pos plain, and_iff_right plain.1, and_iff_right plain.2]
    cases n.negative <;> simp <;> omega
  · rw [if_neg plain]
    exact iff_of_false (fun h => plain ⟨h.1.1, h.1.2.1⟩) (by simp)

end Numeral

/-- The integer that is spelled in a place, if there is one. -/
def Draft.integer? : Draft → Option Int
  | .number n => n.integer?
  | _ => none

/-- Whether zero is spelled in a place with a minus sign. -/
def Draft.isMinusZero : Draft → Bool
  | .number n => n.isMinusZero
  | _ => false

namespace JsonReader

variable {room : Nat} {d : Draft}

theorem any_eq_int_iff {m : Int} (least : -9223372036854775808 ≤ m)
    (greatest : m ≤ 9223372036854775807) :
    any room d = .ok (.int m) ↔ d.integer? = some m ∧ d.isMinusZero = false := by
  cases d with
  | number n =>
    rw [Draft.integer?, Draft.isMinusZero, ← Numeral.value_eq_int_iff least greatest]
    simp [any, Except.map_eq_ok, here_eq_ok, Json.int]
  | null | bool | broken | missing => simp [any, Draft.integer?, Json.int]
  | text =>
    refine iff_of_false (fun h => ?_) (by simp [Draft.integer?])
    obtain ⟨_, -, h⟩ := Except.map_eq_ok.mp h
    cases h
  | array =>
    refine iff_of_false (fun h => ?_) (by simp [Draft.integer?])
    obtain ⟨_, _, -, -, -, h⟩ := any_array_eq_ok h
    cases h
  | object =>
    refine iff_of_false (fun h => ?_) (by simp [Draft.integer?])
    obtain ⟨_, _, -, -, -, h⟩ := any_object_eq_ok h
    cases h

/-- A text that can be read as a value is one value, and then nothing. -/
theorem run_of_any_run {s : List Symbol} {v : Json} (h : any.run s = .ok v) {α : Type}
    (read : JsonReader α) :
    read.run s = read greatestDepth (Draft.build (JsonToken.tokens s)).1 := by
  obtain ⟨_, -, ends⟩ := Except.bind_eq_ok.mp h
  have nothing : (Draft.build (JsonToken.tokens s)).2.isEmpty := by
    split at ends
    · assumption
    · cases ends
  rw [run]
  simp only [nothing, if_true]
  cases read greatestDepth (Draft.build (JsonToken.tokens s)).1 <;> rfl

end JsonReader

/-! ## Spans -/

namespace Span

/-- A span is found among members if and only if each of its parts is there once at most and is an
integer of thirty-two bits. -/
theorem exists_ofMembers_iff {p : Partial} {members : List (String × Json)} :
    (∃ p', ofMembers p members = .ok p') ↔ ∀ name, name ∈ names →
      AtMostOnce (p.member name).isSome (Json.named name members) fun v => ∃ n, part v = .ok n := by
  induction members generalizing p with
  | nil => exact iff_of_true ⟨p, rfl⟩ fun _ _ => atMostOnce_nil
  | cons m rest ih =>
    obtain ⟨name, v⟩ := m
    have next {q : Partial} (step : put p name v = .ok q) :
        (∀ n, n ∈ names → AtMostOnce (p.member n).isSome (Json.named n ((name, v) :: rest))
          fun v => ∃ n, part v = .ok n) ↔
        (name ∈ names → (p.member name).isSome = false ∧ ∃ n, part v = .ok n) ∧
          ∀ n, n ∈ names → AtMostOnce (q.member n).isSome (Json.named n rest)
            fun v => ∃ n, part v = .ok n := by
      refine atMostOnce_next_iff (Json.named_cons name v rest) fun n known => ?_
      rw [member_of_put step n known]
      split <;> rfl
    constructor
    · rintro ⟨p', h⟩
      obtain ⟨q, step, after⟩ := ofMembers_cons.mp h
      exact (next step).mpr ⟨exists_put_iff.mp ⟨q, step⟩, ih.mp ⟨p', after⟩⟩
    · intro h
      obtain ⟨q, step⟩ := exists_put_iff.mpr fun known => by
        have first := h name known
        rw [Json.named_cons, if_pos rfl, atMostOnce_cons] at first
        exact ⟨first.1, first.2.1⟩
      obtain ⟨p', after⟩ := ih.mpr ((next step).mp h).2
      exact ⟨p', ofMembers_cons.mpr ⟨q, step, after⟩⟩

/-- The values that are parts of a span are spelled as integers of thirty-two bits, and not as zero
with a minus sign. -/
theorem exists_part_iff {room : Nat} {d : Draft} {v : Json} (value : any room d = .ok v) :
    (∃ n, part v = .ok n) ↔
      (∃ m, d.integer? = some m ∧ -2147483648 ≤ m ∧ m ≤ 2147483647) ∧ d.isMinusZero = false := by
  constructor
  · rintro ⟨n, is_part⟩
    obtain rfl := part_eq_ok is_part
    have least := n.le_toInt
    have greatest := n.toInt_lt
    obtain ⟨spelled, signed⟩ := (any_eq_int_iff (by omega) (by omega)).mp value
    exact ⟨⟨n.toInt, spelled, by omega, by omega⟩, signed⟩
  · rintro ⟨⟨m, spelled, least, greatest⟩, signed⟩
    have same : any room d = .ok (.int m) :=
      (any_eq_int_iff (by omega) (by omega)).mpr ⟨spelled, signed⟩
    obtain rfl := Except.ok.inj (value.symm.trans same)
    exact ⟨_, if_pos ⟨least, greatest⟩⟩

end Span

/-! ## Nodes -/

namespace Node

/-- The names of the texts of a node that may be absent. -/
def textNames : List String :=
  ["nodeType", "sourceCodeSnippet", "filePath", "gitCommitHash", "name"]

/-- The members that a node is read from: the identity is there once, and texts, the integers of the
span and the annotations are there once at most. -/
structure Accepts (members : List (Quoted × Draft)) : Prop where
  id : ∃ d s, Draft.named "id" members = [d] ∧ d.text? = some s
  text : ∀ name ∈ textNames, (Draft.named name members).length ≤ 1 ∧
    ∀ d ∈ Draft.named name members, ∃ s, d.text? = some s
  part : ∀ name ∈ Span.names, (Draft.named name members).length ≤ 1 ∧
    ∀ d ∈ Draft.named name members,
      ∃ m, d.integer? = some m ∧ -2147483648 ≤ m ∧ m ≤ 2147483647
  annotations : (Draft.named "annotations" members).length ≤ 1

/-- Whether no part of the span is spelled as zero with a minus sign. -/
def NoMinusZero (members : List (Quoted × Draft)) : Prop :=
  ∀ name ∈ Span.names, ∀ d ∈ Draft.named name members, d.isMinusZero = false

section Members

variable {room : Nat} {members : List (Quoted × Draft)} {vs : List (String × Json)}

theorem given_eq {field : RecordField Partial} (known : field ∈ format.fields) (p : Partial) :
    field.given p = (p.member field.name).isSome := by
  simp only [format, List.mem_cons, List.not_mem_nil, or_false] at known
  obtain rfl | rfl | rfl | rfl | rfl | rfl | rfl := known <;> exact Option.isSome_map.symm

theorem exists_other {name : String} {d : Draft} {v : Json} (value : any room d = .ok v) :
    ∃ put, format.other name room d = .ok put :=
  ⟨_, Except.map_eq_ok.mpr ⟨v, value, rfl⟩⟩

theorem exists_reader_text {name : String} (known : name = "id" ∨ name ∈ textNames) {d : Draft} :
    (∃ put, format.reader name room d = .ok put) ↔ ∃ s, d.text? = some s := by
  have of {name : String} {get : Partial → Option String} {set : Partial → String → Partial} :
      (∃ put, (RecordField.of name .text get set).read room d = .ok put) ↔
        ∃ s, d.text? = some s := by
    simp only [RecordField.of, Except.map_eq_ok, text_eq_ok]
    constructor
    · rintro ⟨_, s, read, -⟩
      exact ⟨s, read⟩
    · rintro ⟨s, read⟩
      exact ⟨_, s, read, rfl⟩
  simp only [textNames, List.mem_cons, List.not_mem_nil, or_false] at known
  obtain rfl | rfl | rfl | rfl | rfl | rfl := known <;> exact of

theorem exists_reader_annotations {d : Draft} {v : Json} (value : any room d = .ok v) :
    ∃ put, format.reader "annotations" room d = .ok put := by
  by_cases null : d = .null
  · exact ⟨_, Except.map_eq_ok.mpr ⟨none, optional_eq_ok.mpr (.inl ⟨null, rfl⟩), rfl⟩⟩
  · exact ⟨_, Except.map_eq_ok.mpr ⟨some v, optional_eq_ok.mpr (.inr ⟨null, v, value, rfl⟩), rfl⟩⟩

/-- A field leaves the other members alone, and a member without a field is put in front of them. -/
theorem others_of_reader {name : String} {d : Draft} {v : Json} {put : Partial → Partial}
    (value : any room d = .ok v) (read : format.reader name room d = .ok put) (p : Partial) :
    (put p).others = if name ∈ names then p.others else (name, v) :: p.others := by
  by_cases known : name ∈ names
  · rw [if_pos known]
    simp only [names, List.mem_cons, List.not_mem_nil, or_false] at known
    obtain rfl | rfl | rfl | rfl | rfl | rfl | rfl := known <;>
    · obtain ⟨_, -, rfl⟩ := Except.map_eq_ok.mp read
      rfl
  · rw [if_neg known]
    rw [reader_of_unknown (map_name_fields ▸ known)] at read
    obtain ⟨v', value', rfl⟩ := Except.map_eq_ok.mp read
    obtain rfl := Except.ok.inj (value.symm.trans value')
    rfl

/-- Members without a field are kept, in reverse. -/
theorem others_of_readMembers {p p' : Partial} (values : anyMembers room members = .ok vs)
    (h : format.readMembers room p members = .ok p') :
    p'.others = (vs.filter (·.1 ∉ names)).reverse ++ p.others := by
  induction members generalizing p vs with
  | nil =>
    obtain rfl : [] = vs := Except.ok.inj values
    obtain rfl : p = p' := Except.ok.inj h
    rfl
  | cons m rest ih =>
    obtain ⟨q, d⟩ := m
    obtain ⟨name, v, vs, key, value, others, rfl⟩ := anyMembers_cons_eq_ok.mp values
    obtain ⟨-, put, read, after⟩ := (readMembers_cons_iff key).mp h
    rw [ih others after, others_of_reader value read, List.filter_cons]
    by_cases known : name ∈ names <;> simp [known]

theorem exists_complete_iff {absent : Nat → String → Mismatch} {p : Partial} :
    (∃ n, p.complete absent = .ok n) ↔
      p.id ≠ none ∧ ∃ q, Span.ofMembers {} p.others.reverse = .ok q := by
  constructor
  · rintro ⟨n, h⟩
    obtain ⟨id, required, h⟩ := Except.bind_eq_ok.mp h
    obtain ⟨q, span, -⟩ := Except.bind_eq_ok.mp h
    refine ⟨fun none => ?_, q, span⟩
    rw [none] at required
    cases required
  · rintro ⟨given, q, span⟩
    obtain ⟨id, given⟩ := Option.ne_none_iff_exists'.mp given
    exact ⟨_, Except.bind_eq_ok.mpr ⟨id, by rw [given]; rfl, Except.bind_eq_ok.mpr ⟨q, span, rfl⟩⟩⟩

/-- The identity and the span are what a node needs beyond members that can be read. -/
theorem exists_complete_iff_of_readMembers {p : Partial} (values : anyMembers room members = .ok vs)
    (h : format.readMembers room {} members = .ok p) :
    (∃ n, p.complete missing = .ok n) ↔ Draft.named "id" members ≠ [] ∧
      ∀ name ∈ Span.names, AtMostOnce false (Draft.named name members) fun d =>
        (∃ m, d.integer? = some m ∧ -2147483648 ≤ m ∧ m ≤ 2147483647) ∧
          d.isMinusZero = false := by
  have id : p.id ≠ none ↔ Draft.named "id" members ≠ [] := by
    obtain ⟨vs', values', kept⟩ := format_keeps.readMembers h
    obtain rfl := Except.ok.inj (values.symm.trans values')
    have held : p.id.map Json.text = (Json.named "id" vs).getLast? := by
      rw [← Json.lookup_reverse_eq]
      exact (kept "id").trans Option.or_none
    have count := (Draft.named_of_anyMembers values "id").length_eq
    refine not_congr ?_
    rw [← Option.map_eq_none_iff (f := Json.text), held, List.getLast?_eq_none_iff,
      ← List.length_eq_zero_iff, ← count, List.length_eq_zero_iff]
  have span : (∃ q, Span.ofMembers {} p.others.reverse = .ok q) ↔
      ∀ name ∈ Span.names, AtMostOnce false (Draft.named name members) fun d =>
        (∃ m, d.integer? = some m ∧ -2147483648 ≤ m ∧ m ≤ 2147483647) ∧
          d.isMinusZero = false := by
    -- The span is looked for among the members without a field, where its own names all are.
    rw [others_of_readMembers values h, List.append_nil, List.reverse_reverse,
      Span.exists_ofMembers_iff]
    refine forall₂_congr fun name known => ?_
    have unheld : (({} : Span.Partial).member name).isSome = false ∧ name ∉ names := by
      simp only [Span.names, List.mem_cons, List.not_mem_nil, or_false] at known
      obtain rfl | rfl | rfl | rfl := known <;> exact ⟨rfl, by decide⟩
    rw [unheld.1, Json.named_filter (· ∉ names) (by simpa using unheld.2)]
    exact (AtMostOnce.of_forall₂ (Draft.named_of_anyMembers values name) fun d v value =>
      (Span.exists_part_iff value).symm).symm
  rw [exists_complete_iff, id, span]

/-- Members take their places in a node if those that should be texts are. -/
theorem takes_iff (values : anyMembers room members = .ok vs) :
    Takes format Partial.member room {} members ↔
      (∀ name, name = "id" ∨ name ∈ textNames → AtMostOnce false (Draft.named name members) fun d =>
        ∃ s, d.text? = some s) ∧ (Draft.named "annotations" members).length ≤ 1 := by
  have empty (name : String) : (({} : Partial).member name).isSome = false :=
    congrArg Option.isSome (format_keeps.empty name)
  have known_iff (name : String) : name ∈ format.fields.map (·.name) ↔
      (name = "id" ∨ name ∈ textNames) ∨ name = "annotations" := by
    simp [map_name_fields, names, textNames, or_assoc]
  simp only [Takes, known_iff, empty]
  constructor
  · intro takes
    refine ⟨fun name known => ?_, (takes "annotations" (.inr rfl)).1⟩
    simpa only [exists_reader_text known] using takes name (.inl known)
  · rintro ⟨texts, one⟩ name (known | rfl)
    · simpa only [exists_reader_text known] using texts name known
    · refine atMostOnce_false.mpr ⟨one, fun d among => ?_⟩
      obtain ⟨v, value⟩ := Draft.exists_any_of_named values d among
      exact exists_reader_annotations value

/-- If an object can be read as a value, then a node is read from it as soon as its members are read
and complete a node. -/
theorem exists_read_iff_of_any {ending : ObjectEnd} {v : Json}
    (value : any (room + 1) (.object members ending) = .ok v) :
    (∃ n, read (room + 1) (.object members ending) = .ok n) ↔
      ∃ p, format.readMembers room {} members = .ok p ∧ ∃ n, p.complete missing = .ok n := by
  obtain ⟨left, vs, -, -, ended, -⟩ := any_object_eq_ok value
  constructor
  · rintro ⟨n, h⟩
    obtain ⟨left, entered, h⟩ := Except.bind_eq_ok.mp h
    obtain rfl : room = left := Except.ok.inj entered
    obtain ⟨p, filled, h⟩ := Except.bind_eq_ok.mp h
    obtain ⟨_, -, completed⟩ := Except.bind_eq_ok.mp h
    exact ⟨p, filled, n, Except.mapError_eq_ok.mp completed⟩
  · rintro ⟨p, filled, n, completed⟩
    exact ⟨n, Except.bind_eq_ok.mpr ⟨room, rfl, Except.bind_eq_ok.mpr ⟨p, filled,
      Except.bind_eq_ok.mpr ⟨(), objectEnd_eq_ok ended, Except.mapError_eq_ok.mpr completed⟩⟩⟩⟩

/-- A node is read from the members that it accepts, if none of them is zero with a minus sign, and
from no others. -/
theorem exists_read_iff {ending : ObjectEnd} {v : Json}
    (value : any (room + 1) (.object members ending) = .ok v) :
    (∃ n, read (room + 1) (.object members ending) = .ok n) ↔
      Accepts members ∧ NoMinusZero members := by
  obtain ⟨left, vs, entered, values, -, -⟩ := any_object_eq_ok value
  obtain rfl : room = left := Nat.succ.inj (enter_eq_ok entered)
  have takes := (format_keeps.exists_readMembers_iff (fun _ known => given_eq known)
    (fun _ _ _ => exists_other) values (p := {})).trans (takes_iff values)
  rw [exists_read_iff_of_any value]
  constructor
  · rintro ⟨p, filled, completed⟩
    obtain ⟨texts, one⟩ := takes.mp ⟨p, filled⟩
    obtain ⟨some_id, parts⟩ := (exists_complete_iff_of_readMembers values filled).mp completed
    obtain ⟨d, only, s, text⟩ := atMostOnce_and_ne_nil_iff.mp ⟨texts "id" (.inl rfl), some_id⟩
    have part (name : String) (known : name ∈ Span.names) := atMostOnce_false.mp (parts name known)
    have accepts : Accepts members := {
      id := ⟨d, s, only, text⟩
      text := fun name known => atMostOnce_false.mp (texts name (.inr known))
      part := fun name known =>
        ⟨(part name known).1, fun d among => ((part name known).2 d among).1⟩
      annotations := one }
    exact ⟨accepts, fun name known d among => ((part name known).2 d among).2⟩
  · rintro ⟨accepts, signed⟩
    obtain ⟨d, s, only, text⟩ := accepts.id
    obtain ⟨id, some_id⟩ :=
      atMostOnce_and_ne_nil_iff (P := fun d => ∃ s, d.text? = some s).mpr ⟨d, only, s, text⟩
    obtain ⟨p, filled⟩ := takes.mpr ⟨fun name known => by
      obtain rfl | known := known
      · exact id
      · exact atMostOnce_false.mpr (accepts.text name known), accepts.annotations⟩
    have parts : ∀ name ∈ Span.names, AtMostOnce false (Draft.named name members) fun d =>
        (∃ m, d.integer? = some m ∧ -2147483648 ≤ m ∧ m ≤ 2147483647) ∧
          d.isMinusZero = false := fun name known =>
      atMostOnce_false.mpr ⟨(accepts.part name known).1, fun d among =>
        ⟨(accepts.part name known).2 d among, signed name known d among⟩⟩
    exact ⟨p, filled, (exists_complete_iff_of_readMembers values filled).mpr ⟨some_id, parts⟩⟩

end Members

/-! ## What is read -/

/-- A value gives one node at most. -/
theorem Given.unique {v : Json} {n n' : Node Json} (h : Given v n) (h' : Given v n') : n = n' := by
  have text {w : Json} {s s' : String} (same : w = .text s) (same' : w = .text s') : s = s' :=
    Json.text.inj (same.symm.trans same')
  have int {w : Json} {k k' : Int32} (same : w = .int32 k) (same' : w = .int32 k') : k = k' :=
    Int32.toInt_inj.mp (JsonNumber.int.inj (Json.number.inj (same.symm.trans same')))
  obtain ⟨id, nodeType, ⟨startByte, endByte, startLine, endLine⟩, snippet, filePath, revision,
    name, annotations⟩ := n
  obtain ⟨id', nodeType', ⟨startByte', endByte', startLine', endLine'⟩, snippet', filePath',
    revision', name', annotations'⟩ := n'
  rw [Node.mk.injEq, Span.mk.injEq]
  exact ⟨Json.text.inj (Option.some.inj (h.id.symm.trans h'.id)), text h.nodeType h'.nodeType,
    ⟨int h.startByte h'.startByte, int h.endByte h'.endByte, int h.startLine h'.startLine,
      int h.endLine h'.endLine⟩, text h.snippet h'.snippet, text h.filePath h'.filePath,
    text h.revision h'.revision, text h.name h'.name, h.annotations.symm.trans h'.annotations⟩

/-- Only the members that a node knows matter to what is given. -/
theorem Given.congr {v v' : Json} {n : Node Json}
    (same : ∀ name ∈ names ++ Span.names, v'.get? name = v.get? name) (h : Given v n) :
    Given v' n := by
  have get (name : String) (known : name ∈ names ++ Span.names) :
      v'.textMember name = v.textMember name ∧ v'.intMember name = v.intMember name ∧
        v'.given? name = v.given? name := by
    simp only [Json.textMember, Json.intMember, Json.given?, same name known, and_self]
  exact {
    id := (same "id" (by decide)).trans h.id
    nodeType := (get "nodeType" (by decide)).1.trans h.nodeType
    startByte := (get "startByte" (by decide)).2.1.trans h.startByte
    endByte := (get "endByte" (by decide)).2.1.trans h.endByte
    startLine := (get "startLine" (by decide)).2.1.trans h.startLine
    endLine := (get "endLine" (by decide)).2.1.trans h.endLine
    snippet := (get "sourceCodeSnippet" (by decide)).1.trans h.snippet
    filePath := (get "filePath" (by decide)).1.trans h.filePath
    revision := (get "gitCommitHash" (by decide)).1.trans h.revision
    name := (get "name" (by decide)).1.trans h.name
    annotations := (get "annotations" (by decide)).2.2.trans h.annotations }

/-! ## Order and other members -/

/-- Whether the members that a node knows are the same in two objects, in any order. -/
def SameKnown (members members' : List (Quoted × Draft)) : Prop :=
  ∀ name ∈ names ++ Span.names, (Draft.named name members').Perm (Draft.named name members)

section SameKnown

variable {members members' : List (Quoted × Draft)}

theorem known_cases {name : String} (known : name ∈ names ++ Span.names) :
    name = "id" ∨ name ∈ textNames ∨ name ∈ Span.names ∨ name = "annotations" := by
  simp only [names, Span.names, textNames, List.cons_append, List.nil_append, List.mem_cons,
    List.not_mem_nil, or_false] at known ⊢
  tauto

theorem known_of_text {name : String} (h : name ∈ textNames) : name ∈ names ++ Span.names := by
  revert name
  decide

theorem known_of_part {name : String} (h : name ∈ Span.names) : name ∈ names ++ Span.names :=
  List.mem_append_right _ h

theorem Accepts.length_named_le (h : Accepts members) {name : String}
    (known : name ∈ names ++ Span.names) : (Draft.named name members).length ≤ 1 := by
  obtain rfl | text | part | rfl := known_cases known
  · obtain ⟨d, s, only, -⟩ := h.id
    simp [only]
  · exact (h.text name text).1
  · exact (h.part name part).1
  · exact h.annotations

theorem SameKnown.symm (same : SameKnown members members') : SameKnown members' members :=
  fun name known => (same name known).symm

/-- Members that are there once at most are in no order. -/
theorem SameKnown.named_eq (same : SameKnown members members') (h : Accepts members) {name : String}
    (known : name ∈ names ++ Span.names) :
    Draft.named name members' = Draft.named name members := by
  have perm := same name known
  match eq : Draft.named name members, h.length_named_le known with
  | [], _ => rw [eq] at perm; exact List.perm_nil.mp perm
  | [d], _ => rw [eq] at perm; exact List.perm_singleton.mp perm
  | _ :: _ :: _, few => simp at few

theorem SameKnown.accepts (same : SameKnown members members') (h : Accepts members) :
    Accepts members' where
  id := same.named_eq h (show "id" ∈ names ++ Span.names by decide) ▸ h.id
  text name known := same.named_eq h (known_of_text known) ▸ h.text name known
  part name known := same.named_eq h (known_of_part known) ▸ h.part name known
  annotations :=
    same.named_eq h (show "annotations" ∈ names ++ Span.names by decide) ▸ h.annotations

theorem SameKnown.noMinusZero (same : SameKnown members members') (h : Accepts members)
    (signed : NoMinusZero members) : NoMinusZero members' := fun name known =>
  same.named_eq h (known_of_part known) ▸ signed name known

end SameKnown

/-! ## Texts -/

/-- Whether a text is one object of these members, and can be read as a value: it is well formed,
and within the limits on depth and numbers. -/
structure IsObject (s : List Symbol) (members : List (Quoted × Draft)) (v : Json) : Prop where
  value : any.run s = .ok v
  draft : ∃ ending, (Draft.build (JsonToken.tokens s)).1 = .object members ending

section IsObject

variable {s s' : List Symbol} {members members' : List (Quoted × Draft)} {v v' : Json}
  {n : Node Json}

theorem IsObject.exists_run_iff (o : IsObject s members v) :
    (∃ n, read.run s = .ok n) ↔ Accepts members ∧ NoMinusZero members := by
  obtain ⟨ending, draft⟩ := o.draft
  have value : any greatestDepth (.object members ending) = .ok v := draft ▸ run_eq_ok o.value
  rw [run_of_any_run o.value, draft]
  exact exists_read_iff value

theorem IsObject.given (o : IsObject s members v) (h : read.run s = .ok n) : Given v n := by
  obtain ⟨v', value, given⟩ := given_of_read (run_eq_ok h)
  obtain rfl := Except.ok.inj ((run_eq_ok o.value).symm.trans value)
  exact given

/-- The members of a name are what the value has under that name. -/
theorem IsObject.get?_eq (o : IsObject s members v) (o' : IsObject s' members' v') {name : String}
    (same : Draft.named name members' = Draft.named name members) :
    v'.get? name = v.get? name := by
  have read {s : List Symbol} {members : List (Quoted × Draft)} {v : Json}
      (o : IsObject s members v) : ∃ vs, anyMembers (greatestDepth - 1) members = .ok vs ∧
        v.get? name = (Json.named name vs).getLast? := by
    obtain ⟨ending, draft⟩ := o.draft
    obtain ⟨left, vs, entered, values, -, rfl⟩ := any_object_eq_ok (draft ▸ run_eq_ok o.value)
    obtain rfl : greatestDepth - 1 = left := by rw [enter_eq_ok entered]; rfl
    exact ⟨vs, values, by rw [Json.get?_ofMembers, Json.lookup_reverse_eq]⟩
  obtain ⟨vs, values, last⟩ := read o
  obtain ⟨vs', values', last'⟩ := read o'
  have each := Draft.named_of_anyMembers values name
  have each' := Draft.named_of_anyMembers values' name
  rw [same] at each'
  have unique : Relator.RightUnique fun d v => any (greatestDepth - 1) d = .ok v :=
    fun _ _ _ one other => Except.ok.inj (one.symm.trans other)
  rw [last, last', List.right_unique_forall₂' unique each each']

/-- The same node is read from the same members in any order, and among any others. -/
theorem IsObject.run_of_sameKnown (o : IsObject s members v) (o' : IsObject s' members' v')
    (same : SameKnown members members') (h : read.run s = .ok n) : read.run s' = .ok n := by
  obtain ⟨accepts, signed⟩ := o.exists_run_iff.mp ⟨n, h⟩
  obtain ⟨n', read'⟩ :=
    o'.exists_run_iff.mpr ⟨same.accepts accepts, same.noMinusZero accepts signed⟩
  have given : Given v' n := (o.given h).congr fun _ known =>
    o.get?_eq o' (same.named_eq accepts known)
  rw [read', (o'.given read').unique given]

/-- A node is read from an object if and only if the object has its identity once, as a text; each
of its other texts once at most, and as a text; each part of its span once at most, spelled as an
integer of thirty-two bits without a fraction and an exponent, and not as zero with a minus sign;
and annotations once at most. It has then exactly the parts that are given, where absent texts are
empty, absent integers are zero, and annotations that are absent or null are absent. Neither the
order of the members nor any others make a difference. -/
theorem reads_what_it_accepts (o : IsObject s members v) :
    ((∃ n, read.run s = .ok n) ↔ Accepts members ∧ NoMinusZero members) ∧
    (∀ n, read.run s = .ok n → Given v n) ∧
    ∀ s' members' v', IsObject s' members' v' → SameKnown members members' →
      ∀ n, read.run s' = .ok n ↔ read.run s = .ok n :=
  ⟨o.exists_run_iff, fun _ => o.given, fun _ _ _ o' same _ =>
    ⟨o'.run_of_sameKnown o same.symm, o.run_of_sameKnown o' same⟩⟩

end IsObject

theorem isObject_of_build {s : List Symbol} {members : List (Quoted × Draft)} {v : Json}
    (build : Draft.build (JsonToken.tokensWithin s.length s) = (.object members .closed, []))
    (value : any greatestDepth (.object members .closed) = .ok v) : IsObject s members v := by
  rw [← JsonToken.tokens_eq_tokensWithin (Nat.le_refl _)] at build
  refine ⟨?_, .closed, by rw [build]⟩
  rw [JsonReader.run, build]
  simp only [value]
  rfl

/-- Two objects with the same known members in another order, one of them among others. -/
theorem reads_what_it_accepts_reordered :
    let s := Symbol.ofString
      "\x7b\"endByte\":7,\"x\":1,\"annotations\":null,\"id\":\"a\",\"x\":[true]\x7d"
    let s' := Symbol.ofString "\x7b\"id\":\"a\",\"endByte\":7,\"annotations\":null\x7d"
    ∃ n, read.run s = .ok n ∧ read.run s' = .ok n := by
  intro s s'
  let seven : Draft := .number ⟨false, ['7'], [], none⟩
  let id : Quoted × Draft := (.ofText "id", .text (.ofText "a"))
  let endByte : Quoted × Draft := (.ofText "endByte", seven)
  let annotations : Quoted × Draft := (.ofText "annotations", .null)
  let members := [endByte, (.ofText "x", .number ⟨false, ['1'], [], none⟩), annotations, id,
    (.ofText "x", .array [.bool true] .closed)]
  let members' := [id, endByte, annotations]
  have object : IsObject s members (.ofMembers [("endByte", .int 7), ("x", .int 1),
      ("annotations", .null), ("id", .text "a"), ("x", .array [.bool true])]) :=
    isObject_of_build rfl rfl
  have object' : IsObject s' members' (.ofMembers [("id", .text "a"), ("endByte", .int 7),
      ("annotations", .null)]) :=
    isObject_of_build rfl rfl
  have spelled : seven.integer? = some 7 ∧ seven.isMinusZero = false := ⟨rfl, rfl⟩
  have accepts : Accepts members := by
    constructor <;> simp [members, id, endByte, annotations, textNames, Span.names, spelled,
      Draft.text?, Except.toOption]
  have signed : NoMinusZero members := by
    simp [members, id, endByte, annotations, NoMinusZero, Span.names, spelled]
  have same : SameKnown members members' := by
    simp [SameKnown, members, members', id, endByte, annotations, names, Span.names]
  obtain ⟨reads, -, others⟩ := reads_what_it_accepts object
  obtain ⟨n, read⟩ := reads.mpr ⟨accepts, signed⟩
  exact ⟨n, read, (others s' members' _ object' same n).mpr read⟩

/-- Zero with a minus sign has no fraction and no exponent, and it is in range, but a node is not
read from it. -/
theorem accepts_minus_zero :
    let s := Symbol.ofString "\x7b\"id\":\"a\",\"startByte\":-0\x7d"
    ∃ members v, IsObject s members v ∧ ¬ ((∃ n, read.run s = .ok n) ↔ Accepts members) := by
  intro s
  let minusZero : Draft := .number .minusZero
  let members : List (Quoted × Draft) :=
    [(.ofText "id", .text (.ofText "a")), (.ofText "startByte", minusZero)]
  have spelled : minusZero.integer? = some 0 ∧ minusZero.isMinusZero = true := ⟨rfl, rfl⟩
  obtain ⟨x, value⟩ : ∃ x, Numeral.minusZero.value = .ok (.double x) :=
    ⟨_, Numeral.value_minusZero⟩
  have object : IsObject s members (.ofMembers [("id", .text "a"),
      ("startByte", .number (.double x))]) := by
    refine isObject_of_build rfl (Except.bind_eq_ok.mpr ⟨126, rfl, Except.bind_eq_ok.mpr
      ⟨_, anyMembers_cons_eq_ok.mpr ⟨"id", .text "a", _, rfl, rfl, anyMembers_cons_eq_ok.mpr
        ⟨"startByte", _, [], rfl, ?_, rfl, rfl⟩, rfl⟩, rfl⟩⟩)
    exact Except.map_eq_ok.mpr ⟨_, here_eq_ok.mpr value, rfl⟩
  have accepts : Accepts members := by
    constructor <;> simp [members, textNames, Span.names, spelled, Draft.text?, Except.toOption]
  refine ⟨members, _, object, fun iff => ?_⟩
  obtain ⟨-, signed⟩ := object.exists_run_iff.mp (iff.mpr accepts)
  simp [NoMinusZero, members, Span.names, spelled] at signed

end Node

end GraphIngest
