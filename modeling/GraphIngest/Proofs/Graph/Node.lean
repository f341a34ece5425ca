import GraphIngest.Proofs.Json.Members

/-!
# Nodes as they are given

A node that was read has the parts that the members of its object give. Parts that are not given are
empty or zero.

## Main definitions

* `Node.Given`: a node has the parts that a value gives.
* `Node.given_of_read`: a node that was read is given by the value that it was read from.
-/

namespace GraphIngest

open JsonReader RecordFormat

@[simp] theorem Json.isExact_int32 (n : Int32) : (Json.int32 n).isExact := by
  have least := n.le_toInt
  have greatest := n.toInt_lt
  simp only [Json.int32, Json.int, Json.isExact, Bool.and_eq_true, decide_eq_true_eq]
  exact ⟨by omega, by unfold Numeral.greatestUnsigned; omega⟩

/-! ## Spans -/

namespace Span

theorem part_eq_ok {v : Json} {n : Int32} (h : part v = .ok n) : v = .int32 n := by
  cases v with
  | number x =>
    cases x with
    | int m =>
      simp only [part] at h
      split at h
      · next within =>
        obtain rfl := Except.ok.inj h
        rw [Json.int32, Int32.toInt_ofInt_of_le within.1 (Int.lt_of_le_of_lt within.2 (by decide))]
        rfl
      · cases h
    | double | single => cases h
  | _ => cases h

theorem part_int32 (n : Int32) : part (.int32 n) = .ok n := by
  have within : -2147483648 ≤ n.toInt ∧ n.toInt ≤ 2147483647 :=
    ⟨n.le_toInt, Int.le_of_lt_add_one n.toInt_lt⟩
  rw [Json.int32, Json.int, part, if_pos within, Int32.ofInt_toInt]

theorem setPart_eq_ok {name : String} {get : Partial → Option Int32}
    {set : Partial → Int32 → Partial} {p q : Partial} {v : Json} :
    setPart name get set p v = .ok q ↔
      (get p).isSome = false ∧ ∃ n, part v = .ok n ∧ set p n = q := by
  unfold setPart
  cases get p with
  | some n => simp
  | none => simp [Except.map_eq_ok]

/-- The member of a name, as far as a span knows it. -/
def Partial.member (p : Partial) : String → Option Json
  | "startByte" => p.startByte.map .int32
  | "endByte" => p.endByte.map .int32
  | "startLine" => p.startLine.map .int32
  | "endLine" => p.endLine.map .int32
  | _ => none

/-- The names of the parts of a span. -/
def names : List String := ["startByte", "endByte", "startLine", "endLine"]

/-- Put a member in, if it is a part of a span. -/
def put (p : Partial) (name : String) (v : Json) : Except Mismatch Partial :=
  if name = "startByte" then
    setPart name (·.startByte) (fun p v => { p with startByte := some v }) p v
  else if name = "endByte" then
    setPart name (·.endByte) (fun p v => { p with endByte := some v }) p v
  else if name = "startLine" then
    setPart name (·.startLine) (fun p v => { p with startLine := some v }) p v
  else if name = "endLine" then
    setPart name (·.endLine) (fun p v => { p with endLine := some v }) p v
  else .ok p

theorem ofMembers_cons {p p' : Partial} {name : String} {v : Json} {rest : List (String × Json)} :
    ofMembers p ((name, v) :: rest) = .ok p' ↔
      ∃ q, put p name v = .ok q ∧ ofMembers q rest = .ok p' := by
  rw [ofMembers, put]
  split
  · exact Except.bind_eq_ok
  split
  · exact Except.bind_eq_ok
  split
  · exact Except.bind_eq_ok
  split
  · exact Except.bind_eq_ok
  · exact Except.bind_eq_ok

/-- Each part is set as the member of its name. -/
theorem exists_setPart {name : String} (known : name ∈ names) :
    ∃ (get : Partial → Option Int32) (set : Partial → Int32 → Partial),
      (∀ p v, put p name v = setPart name get set p v) ∧
      (∀ p, p.member name = (get p).map .int32) ∧
      ∀ p m, ∀ n ∈ names,
        (set p m).member n = if n = name then some (.int32 m) else p.member n := by
  simp only [names, List.mem_cons, List.not_mem_nil, or_false] at known
  obtain rfl | rfl | rfl | rfl := known
  · exact ⟨_, _, fun _ _ => rfl, fun _ => rfl, by simp [names, Partial.member]⟩
  · exact ⟨_, _, fun _ _ => rfl, fun _ => rfl, by simp [names, Partial.member]⟩
  · exact ⟨_, _, fun _ _ => rfl, fun _ => rfl, by simp [names, Partial.member]⟩
  · exact ⟨_, _, fun _ _ => rfl, fun _ => rfl, by simp [names, Partial.member]⟩

theorem put_of_notMem {p : Partial} {name : String} {v : Json} (unknown : name ∉ names) :
    put p name v = .ok p := by
  simp only [names, List.mem_cons, List.not_mem_nil, or_false, not_or] at unknown
  simp [put, unknown]

theorem exists_put_iff {p : Partial} {name : String} {v : Json} :
    (∃ q, put p name v = .ok q) ↔
      (name ∈ names → (p.member name).isSome = false ∧ ∃ n, part v = .ok n) := by
  by_cases known : name ∈ names
  · obtain ⟨get, set, puts, gets, -⟩ := exists_setPart known
    simp only [puts, gets, setPart_eq_ok, Option.isSome_map, known, forall_const]
    constructor
    · rintro ⟨q, fresh, n, value, -⟩
      exact ⟨fresh, n, value⟩
    · rintro ⟨fresh, n, value⟩
      exact ⟨_, fresh, n, value, rfl⟩
  · simp [put_of_notMem known, known]

/-- What is put in is the member of its name, and all other members stay as they are. -/
theorem member_of_put {p q : Partial} {name : String} {v : Json} (h : put p name v = .ok q) :
    ∀ n ∈ names, q.member n = if n = name then some v else p.member n := by
  intro n among
  by_cases known : name ∈ names
  · obtain ⟨get, set, puts, -, sets⟩ := exists_setPart known
    rw [puts] at h
    obtain ⟨-, m, value, rfl⟩ := setPart_eq_ok.mp h
    rw [sets p m n among, part_eq_ok value]
  · rw [put_of_notMem known] at h
    obtain rfl := Except.ok.inj h
    rw [if_neg fun same : n = name => known (same ▸ among)]

theorem member_of_ofMembers {p p' : Partial} {members : List (String × Json)}
    (h : ofMembers p members = .ok p') {n : String} (known : n ∈ names) :
    p'.member n = (members.reverse.lookup n).or (p.member n) := by
  induction members generalizing p with
  | nil =>
    obtain rfl := Except.ok.inj h
    rfl
  | cons m rest ih =>
    obtain ⟨q, step, others⟩ := ofMembers_cons.mp h
    rw [ih others, member_of_put step n known, List.reverse_cons, List.lookup_append,
      Option.or_assoc, Json.lookup_cons_eq]
    split <;> simp

end Span

/-! ## Nodes -/

namespace Json

/-- The member of a name, or the empty text. -/
def textMember (name : String) (v : Json) : Json := (v.get? name).getD (.text "")

/-- The member of a name, or zero. -/
def intMember (name : String) (v : Json) : Json := (v.get? name).getD (.int 0)

end Json

namespace Node

/-- The member of a name, as far as a node keeps it. -/
def Partial.member (p : Partial) : String → Option Json
  | "id" => p.id.map .text
  | "nodeType" => p.nodeType.map .text
  | "sourceCodeSnippet" => p.snippet.map .text
  | "filePath" => p.filePath.map .text
  | "gitCommitHash" => p.revision.map .text
  | "name" => p.name.map .text
  | "annotations" => p.annotations.map (·.getD .null)
  | other => p.others.lookup other

/-- The names that a node has fields for. -/
def names : List String :=
  ["id", "nodeType", "sourceCodeSnippet", "filePath", "gitCommitHash", "name", "annotations"]

theorem map_name_fields : format.fields.map (·.name) = names := rfl

theorem Partial.member_of_notMem {p : Partial} {n : String} (h : n ∉ names) :
    p.member n = p.others.lookup n := by
  simp only [names, List.mem_cons, List.not_mem_nil, or_false, not_or] at h
  unfold member
  split <;> first | rfl | simp at h

/-- Members without a field are kept apart from those with one. -/
theorem Partial.member_of_mem {p : Partial} {n : String} (h : n ∈ names)
    (others : List (String × Json)) : ({ p with others } : Partial).member n = p.member n := by
  simp only [names, List.mem_cons, List.not_mem_nil, or_false] at h
  obtain rfl | rfl | rfl | rfl | rfl | rfl | rfl := h <;> rfl

theorem format_keeps : format.Keeps Partial.member where
  unlisted := rfl
  empty name := by unfold Partial.member; split <;> rfl
  field := by
    simp only [format, List.forall_mem_cons, List.not_mem_nil, false_implies, implies_true,
      and_true]
    refine ⟨puts_of text_shows ?_, puts_of text_shows ?_, puts_of text_shows ?_,
      puts_of text_shows ?_, puts_of text_shows ?_, puts_of text_shows ?_,
      puts_of optional_any_shows ?_⟩ <;>
    · intro p v n
      split
      · next same => subst same; rfl
      · next other => unfold Partial.member; split <;> first | rfl | exact absurd rfl other
  other := by
    intro name apart room d put h
    obtain ⟨v, read, rfl⟩ := Except.map_eq_ok.mp h
    have unknown : name ∉ names := by
      rw [← map_name_fields, List.mem_map]
      rintro ⟨field, among, same⟩
      exact apart field among same
    refine ⟨v, read, fun p n => ?_⟩
    by_cases known : n ∈ names
    · have other : n ≠ name := fun same => unknown (same ▸ known)
      rw [Partial.member_of_mem known, if_neg other]
    · rw [Partial.member_of_notMem known, Partial.member_of_notMem known, Json.lookup_cons_eq]

/-- A node has the parts that a value gives. Parts that it does not give are empty or zero, and
annotations may be null. -/
structure Given (v : Json) (n : Node Json) : Prop where
  id : v.get? "id" = some (.text n.id)
  nodeType : v.textMember "nodeType" = .text n.nodeType
  startByte : v.intMember "startByte" = .int32 n.span.startByte
  endByte : v.intMember "endByte" = .int32 n.span.endByte
  startLine : v.intMember "startLine" = .int32 n.span.startLine
  endLine : v.intMember "endLine" = .int32 n.span.endLine
  snippet : v.textMember "sourceCodeSnippet" = .text n.snippet
  filePath : v.textMember "filePath" = .text n.filePath
  revision : v.textMember "gitCommitHash" = .text n.revision
  name : v.textMember "name" = .text n.name
  annotations : v.given? "annotations" = n.annotations

theorem annotationsSlot : Slot format 6 "annotations" (.optional .any) Partial.annotations
    fun p v => { p with annotations := some v } where
  at_place := ⟨[_, _, _, _, _, _], [], rfl, rfl, by
    simp only [List.forall_mem_cons, List.not_mem_nil, false_implies, implies_true, and_true]
    exact ⟨⟨by decide, leaves_of fun _ _ => rfl⟩, ⟨by decide, leaves_of fun _ _ => rfl⟩,
      ⟨by decide, leaves_of fun _ _ => rfl⟩, ⟨by decide, leaves_of fun _ _ => rfl⟩,
      ⟨by decide, leaves_of fun _ _ => rfl⟩, ⟨by decide, leaves_of fun _ _ => rfl⟩⟩, by simp⟩
  empty := rfl
  put _ _ := rfl
  other name := by
    intro room d put h p
    obtain ⟨v, -, rfl⟩ := Except.map_eq_ok.mp h
    rfl

/-- The annotations of a node that was read are what stands in their place. -/
theorem annotations_of_read {room : Nat} {d : Draft} {n : Node Json} (h : read room d = .ok n) :
    ∃ left, room = left + 1 ∧ match d.field? 6 "annotations" with
      | none => n.annotations = none
      | some d' => optional any left d' = .ok n.annotations := by
  obtain ⟨left, p, absent, deeper, filled, complete⟩ := exists_filled_of_read h
  obtain ⟨id, -, complete⟩ := Except.bind_eq_ok.mp complete
  obtain ⟨span, -, complete⟩ := Except.bind_eq_ok.mp complete
  obtain rfl := Except.ok.inj complete
  have holds := annotationsSlot.holds filled
  refine ⟨left, deeper, ?_⟩
  cases found : d.field? 6 "annotations" with
  | none =>
    rw [found] at holds
    simp [show p.annotations = none from holds]
  | some d' =>
    rw [found] at holds
    obtain ⟨v, value, given⟩ := holds
    simpa [given] using value

/-- The annotations of a node that was read were read themselves, and are not null. -/
theorem exists_any_of_annotations {room : Nat} {d : Draft} {n : Node Json} {a : Json}
    (h : read room d = .ok n) (annotated : n.annotations = some a) :
    ∃ left d', room = left + 1 ∧ d' ≠ .null ∧ any left d' = .ok a := by
  obtain ⟨left, deeper, held⟩ := annotations_of_read h
  rw [annotated] at held
  cases found : d.field? 6 "annotations" with
  | none => simp [found] at held
  | some d' =>
    rw [found] at held
    obtain ⟨-, none⟩ | ⟨not_null, a', value, same⟩ := optional_eq_ok.mp held
    · cases none
    · obtain rfl := Option.some.inj same
      exact ⟨left, d', deeper, not_null, value⟩

/-- Null stands for absent annotations, so annotations are never null. -/
theorem annotations_ne_null {room : Nat} {d : Draft} {n : Node Json} (h : read room d = .ok n) :
    n.annotations ≠ some .null := by
  intro annotated
  obtain ⟨left, d', -, not_null, value⟩ := exists_any_of_annotations h annotated
  exact not_null (any_eq_null value)

/-- A node that was read is given by the value that it was read from. -/
theorem given_of_read {room : Nat} {d : Draft} {n : Node Json} (h : read room d = .ok n) :
    ∃ v, any room d = .ok v ∧ Given v n := by
  obtain ⟨v, p, absent, value, kept, complete⟩ := format_keeps.read h
  obtain ⟨id, required, complete⟩ := Except.bind_eq_ok.mp complete
  obtain ⟨span, spanned, complete⟩ := Except.bind_eq_ok.mp complete
  obtain rfl := Except.ok.inj complete
  have identity : p.id = some id := by
    cases given : p.id with
    | none => simp [given, require] at required
    | some s => simpa [given, require] using required
  have part (name : String) (known : name ∈ Span.names) (unknown : name ∉ names) :
      v.get? name = span.member name := by
    rw [Span.member_of_ofMembers spanned known, List.reverse_reverse, ← kept,
      Partial.member_of_notMem unknown]
    simp only [Span.names, List.mem_cons, List.not_mem_nil, or_false] at known
    obtain rfl | rfl | rfl | rfl := known <;> exact Option.or_none.symm
  have default {α : Type} (f : α → Json) (a : α) (held : Option α) :
      (held.map f).getD (f a) = f (held.getD a) := by
    cases held <;> rfl
  refine ⟨v, value, ?_, ?_, ?_, ?_, ?_, ?_, ?_, ?_, ?_, ?_, ?_⟩
  · rw [← kept]
    exact congrArg (Option.map Json.text) identity
  · rw [Json.textMember, ← kept]; exact default .text "" p.nodeType
  · rw [Json.intMember, part _ (by simp [Span.names]) (by simp [names])]
    exact default .int32 0 span.startByte
  · rw [Json.intMember, part _ (by simp [Span.names]) (by simp [names])]
    exact default .int32 0 span.endByte
  · rw [Json.intMember, part _ (by simp [Span.names]) (by simp [names])]
    exact default .int32 0 span.startLine
  · rw [Json.intMember, part _ (by simp [Span.names]) (by simp [names])]
    exact default .int32 0 span.endLine
  · rw [Json.textMember, ← kept]; exact default .text "" p.snippet
  · rw [Json.textMember, ← kept]; exact default .text "" p.filePath
  · rw [Json.textMember, ← kept]; exact default .text "" p.revision
  · rw [Json.textMember, ← kept]; exact default .text "" p.name
  · rw [Json.given?, ← kept]
    have not_null := annotations_ne_null h
    cases given : p.annotations with
    | none => simp [Partial.member, given]
    | some held =>
      cases held with
      | none => simp [Partial.member, given]
      | some a =>
        simp only [given, Option.getD_some] at not_null
        cases a with
        | null => exact absurd rfl not_null
        | _ => simp [Partial.member, given]

end Node

end GraphIngest
