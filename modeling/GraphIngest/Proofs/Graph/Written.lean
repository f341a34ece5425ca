import GraphIngest.Proofs.Graph.Node

/-!
# Graphs that are read back

A node is written with the parts of its span among its other members, and read with these parts
among the members that it does not know. What was written is read as it was, except that null stands
for annotations that are absent.

## Main definitions

* `Node.readBack`: a node as it is read back.
* `Node.read_toJson`, `Relationship.read_toJson`: nodes and relationships are read back.
* `Node.readBack_of_read`: a node that was read is read back as it is.
-/

namespace GraphIngest

open JsonReader RecordFormat

/-! ## Annotations -/

/-- A value, unless it is null. -/
def Json.unlessNull : Json → Option Json
  | .null => none
  | v => some v

theorem Json.unlessNull_of_ne {v : Json} (not_null : v ≠ .null) : v.unlessNull = some v := by
  cases v with
  | null => exact absurd rfl not_null
  | _ => rfl

theorem JsonReader.optional_any_ofJson {room : Nat} {v : Json} (exact : v.isExact)
    (normal : v.normal = v) (fits : v.depth ≤ room) :
    optional any room (Draft.ofJson v) = .ok v.unlessNull := by
  have value := any_ofJson (Json.faithful_of_isExact exact) fits
  rw [normal] at value
  cases v with
  | null => rfl
  | _ =>
    refine optional_eq_ok.mpr (.inr ⟨?_, _, value, rfl⟩)
    simp [Draft.ofJson]

/-! ## Nodes -/

namespace Node

/-- Whether the annotations of a node are a value that can be written: its numbers are integers of
sixty-four bits, and its objects are sorted, as those of every value are. -/
def Writable (n : Node Json) : Prop :=
  ∀ a, n.annotations = some a → a.isExact ∧ a.normal = a

/-- A node as it is read back: annotations that are null are absent. -/
def readBack (n : Node Json) : Node Json :=
  { n with annotations := n.annotations.bind Json.unlessNull }

/-- The members that a node always has. -/
def members (n : Node Json) : List (String × Json) :=
  [("id", .text n.id), ("nodeType", .text n.nodeType)] ++ n.span.members ++
    [("sourceCodeSnippet", .text n.snippet), ("filePath", .text n.filePath),
      ("gitCommitHash", .text n.revision), ("name", .text n.name)]

theorem toJson_eq (n : Node Json) :
    n.toJson = .object (n.members ++ n.annotations.toList.map (("annotations", ·))) := rfl

theorem depth_toJson_le_iff {n : Node Json} {room : Nat} :
    n.toJson.depth ≤ room + 1 ↔ ∀ a, n.annotations = some a → a.depth ≤ room := by
  have flat : ∀ m ∈ n.members, m.2.depth ≤ room := by
    simp [members, Span.members, Json.depth, Json.int32, Json.int]
  rw [toJson_eq, Json.depth, Nat.add_le_add_iff_right, Json.depthMembers_le_iff,
    List.forall_mem_append, and_iff_right flat]
  cases n.annotations <;> simp

/-- What is filled in by the members that a node always has. -/
def filled (n : Node Json) : Partial where
  id := some n.id
  nodeType := some n.nodeType
  snippet := some n.snippet
  filePath := some n.filePath
  revision := some n.revision
  name := some n.name
  others := n.span.members.reverse

theorem readMembers_members (n : Node Json) (room : Nat) (rest : List (String × Json)) :
    format.readMembers room {} (Draft.ofMembers (n.members ++ rest)) =
      format.readMembers room n.filled (Draft.ofMembers rest) := by
  have text {name s : String} {get : Partial → Option String} {set : Partial → String → Partial} :
      (RecordField.of name .text get set).read room (Draft.ofJson (.text s)) =
        .ok fun p => set p s :=
    Except.map_eq_ok.mpr ⟨s, text_ofText s, rfl⟩
  have part (name : String) (m : Int32) : format.other name room (Draft.ofJson (.int32 m)) =
      .ok fun p => { p with others := (name, .int32 m) :: p.others } :=
    Except.map_eq_ok.mpr
      ⟨.int32 m, any_number (Json.faithful_of_isExact (Json.isExact_int32 m)), rfl⟩
  -- Six members have fields of their own; the four of the span are kept for later.
  simp only [members, Span.members, List.cons_append, List.nil_append]
  rw [readMembers_ofMembers rfl rfl text, readMembers_ofMembers rfl rfl text,
    readMembers_ofMembers_other rfl (part _ _), readMembers_ofMembers_other rfl (part _ _),
    readMembers_ofMembers_other rfl (part _ _), readMembers_ofMembers_other rfl (part _ _),
    readMembers_ofMembers rfl rfl text, readMembers_ofMembers rfl rfl text,
    readMembers_ofMembers rfl rfl text, readMembers_ofMembers rfl rfl text]
  rfl

theorem ofMembers_members (s : Span) : Span.ofMembers {} s.members =
    .ok ⟨some s.startByte, some s.endByte, some s.startLine, some s.endLine⟩ := by
  simp only [Span.members, Span.ofMembers, Span.setPart, Span.part_int32]
  rfl

/-- A node is read back from its members. -/
theorem read_toJson {n : Node Json} {room : Nat} (writable : n.Writable)
    (fits : n.toJson.depth ≤ room + 1) :
    read (room + 1) (Draft.ofJson n.toJson) = .ok n.readBack := by
  have complete (annotations : Option (Option Json)) :
      Partial.complete missing { n.filled with annotations } =
        .ok { n with annotations := annotations.getD none } := by
    simp only [Partial.complete, filled, List.reverse_reverse, ofMembers_members]
    rfl
  rw [toJson_eq]
  cases annotated : n.annotations with
  | none =>
    refine read_ofMembers ((readMembers_members n room _).trans rfl) ?_
    rw [readBack, annotated]
    exact complete none
  | some a =>
    obtain ⟨exact, normal⟩ := writable a annotated
    have value := optional_any_ofJson exact normal (depth_toJson_le_iff.mp fits a annotated)
    refine read_ofMembers ((readMembers_members n room _).trans
      (readMembers_ofMembers rfl rfl (Except.map_eq_ok.mpr ⟨_, value, rfl⟩))) ?_
    rw [readBack, annotated]
    exact complete (some a.unlessNull)

/-- A node that was read is read back as it is, and is nested as deeply as it may be. -/
theorem readBack_of_read {room : Nat} {d : Draft} {n : Node Json} (h : read room d = .ok n) :
    n.readBack = n ∧ n.toJson.depth ≤ room ∧ ∀ a, n.annotations = some a → a.normal = a := by
  have value {a : Json} (annotated : n.annotations = some a) :
      a.normal = a ∧ a.depth + 1 ≤ room := by
    obtain ⟨left, d', rfl, -, value⟩ := exists_any_of_annotations h annotated
    obtain ⟨normal, shallow⟩ := any_normal value
    exact ⟨normal, Nat.succ_le_succ shallow⟩
  obtain ⟨left, -, -, rfl, -⟩ := exists_filled_of_read h
  refine ⟨?_, depth_toJson_le_iff.mpr fun a annotated => ?_, fun a annotated => (value annotated).1⟩
  · have not_null := annotations_ne_null h
    unfold readBack
    cases annotated : n.annotations with
    | none => rw [Option.bind_none, ← annotated]
    | some a =>
      have same : a.unlessNull = some a :=
        Json.unlessNull_of_ne fun null => not_null (null ▸ annotated)
      rw [Option.bind_some, same, ← annotated]
  · exact Nat.le_of_succ_le_succ (value annotated).2

end Node

/-! ## Relationships -/

/-- A relationship is read back from its members. -/
theorem Relationship.read_toJson (r : Relationship) (room : Nat) :
    format.read (room + 1) (Draft.ofJson r.toJson) = .ok r := by
  refine read_ofMembers (p := ⟨some r.source, some r.target, some r.type⟩) ?_ rfl
  rw [readMembers_ofMembers rfl rfl (Except.map_eq_ok.mpr ⟨_, text_ofText r.source, rfl⟩),
    readMembers_ofMembers rfl rfl (Except.map_eq_ok.mpr ⟨_, text_ofText r.target, rfl⟩),
    readMembers_ofMembers rfl rfl (Except.map_eq_ok.mpr ⟨_, text_ofText r.type, rfl⟩)]
  rfl

end GraphIngest
