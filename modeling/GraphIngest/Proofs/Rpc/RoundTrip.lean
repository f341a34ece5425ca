import GraphIngest.Proofs.Graph.Written
import GraphIngest.Proofs.Rpc.Request

/-!
# Requests that are read back

A request is read back from its text, if its annotations can be written. Requests that were read
come back as they are, so their text is a normal form.

## Main definitions

* `IngestRequest.read_toJson`: a request is read back.
* `IngestRequest.readBack_of_run`: a request that was read is read back as it is.
* `IngestRequest.text_read_back`: both of these, for texts.
-/

namespace GraphIngest

open JsonReader RecordFormat

namespace IngestRequest

variable {r : IngestRequest}

/-- Whether all annotations of a request can be written. -/
def Writable (r : IngestRequest) : Prop := ∀ n ∈ r.nodes, n.Writable

/-- A request as it is read back: annotations that are null are absent. -/
def readBack (r : IngestRequest) : IngestRequest := { r with nodes := r.nodes.map Node.readBack }

/-- A request is nested two levels deeper than its nodes. -/
theorem depth_toJson_le_iff {room : Nat} :
    r.toJson.depth ≤ room + 3 ↔ ∀ n ∈ r.nodes, n.toJson.depth ≤ room + 1 := by
  have flat (x : Relationship) : x.toJson.depth ≤ room + 1 := Nat.le_add_left ..
  rw [toJson, Json.depth, Nat.add_le_add_iff_right, Json.depthMembers_le_iff]
  simp [Json.depth, Json.depthItems_le_iff, flat]

/-- A request is read back from its members. -/
theorem read_toJson {room : Nat} (writable : r.Writable) (fits : r.toJson.depth ≤ room + 3) :
    format.read (room + 3) (Draft.ofJson r.toJson) = .ok r.readBack := by
  have nodes : list Node.read (room + 2) (Draft.ofJson (.array (r.nodes.map Node.toJson))) =
      .ok (r.nodes.map Node.readBack) :=
    list_ofItems_map fun n among =>
      Node.read_toJson (writable n among) (depth_toJson_le_iff.mp fits n among)
  have relationships : list Relationship.format.read (room + 2)
      (Draft.ofJson (.array (r.relationships.map Relationship.toJson))) = .ok r.relationships :=
    list_ofItems (fun x => x.read_toJson room) r.relationships
  refine read_ofMembers (p := ⟨some (r.nodes.map Node.readBack), some r.relationships⟩) ?_ rfl
  rw [readMembers_ofMembers rfl rfl (Except.map_eq_ok.mpr ⟨_, nodes, rfl⟩),
    readMembers_ofMembers rfl rfl (Except.map_eq_ok.mpr ⟨_, relationships, rfl⟩)]
  rfl

/-- A request that was read is read back as it is, and is not nested too deeply. -/
theorem readBack_of_run {body : List Symbol} (h : format.read.run body = .ok r) :
    r.readBack = r ∧ r.toJson.depth ≤ greatestDepth ∧
      ∀ n ∈ r.nodes, ∀ a, n.annotations = some a → a.normal = a := by
  have each : ∀ n ∈ r.nodes, n.readBack = n ∧ n.toJson.depth ≤ nodeRoom ∧
      ∀ a, n.annotations = some a → a.normal = a := by
    obtain empty | ⟨ds, ending, -, items⟩ := items_of_run h
    · simp [empty]
    · exact forall_of_items (fun _ _ => Node.readBack_of_read) items
  have same : r.nodes.map Node.readBack = r.nodes :=
    (List.map_congr_left fun n among => (each n among).1).trans (List.map_id r.nodes)
  exact ⟨by rw [readBack, same], depth_toJson_le_iff.mpr fun n among => (each n among).2.1,
    fun n among => (each n among).2.2⟩

/-- A request is read back from its text, if the numbers in its annotations are integers of
sixty-four bits, their objects are sorted as those of every value are, and the text is not nested
too deeply. Only annotations that are null are absent then. So a request that was read from any body
with such numbers is read from its own text as it is, and writing it again gives the same text. -/
theorem text_read_back :
    (∀ r : IngestRequest, (∀ n ∈ r.nodes, ∀ a, n.annotations = some a → a.isExact ∧ a.normal = a) →
      r.toJson.depth ≤ greatestDepth →
      format.read.run (Symbol.ofString r.toJson.render) = .ok { r with
        nodes := r.nodes.map fun n => { n with
          annotations := n.annotations.bind Json.unlessNull } }) ∧
    ∀ (body : List Symbol) (r : IngestRequest), format.read.run body = .ok r →
      (∀ n ∈ r.nodes, ∀ a, n.annotations = some a → a.isExact) →
      format.read.run (Symbol.ofString r.toJson.render) = .ok r ∧
      ∀ r', format.read.run (Symbol.ofString r.toJson.render) = .ok r' →
        r'.toJson.render = r.toJson.render := by
  have written (r : IngestRequest) (writable : r.Writable) (fits : r.toJson.depth ≤ greatestDepth) :
      format.read.run (Symbol.ofString r.toJson.render) = .ok r.readBack := by
    rw [JsonReader.run_render]
    exact read_toJson writable fits
  refine ⟨written, fun body r read exact => ?_⟩
  obtain ⟨same, fits, normal⟩ := readBack_of_run read
  have again := written r (fun n among a annotated =>
    ⟨exact n among a annotated, normal n among a annotated⟩) fits
  rw [same] at again
  refine ⟨again, fun r' read' => ?_⟩
  obtain rfl : r = r' := Except.ok.inj (again.symm.trans read')
  rfl

/-- Null annotations are absent when they are read back, and after that nothing changes. -/
theorem text_read_back_null :
    let first : Node Json := { (.new "a" "caf\u00e9\n" : Node Json) with
      span := { startByte := -2147483648 }, annotations := some .null }
    let second : Node Json := { (.new "b" "" : Node Json) with
      annotations := some (.object [
        ("k", .array [.int (-9223372036854775808), .text "\""]),
        ("l", .nat 18446744073709551615)]) }
    let r : IngestRequest := ⟨[first, second], [⟨"a", "b", "calls"⟩]⟩
    let r' : IngestRequest := ⟨[{ first with annotations := none }, second], r.relationships⟩
    format.read.run (Symbol.ofString r.toJson.render) = .ok r' ∧
      format.read.run (Symbol.ofString r'.toJson.render) = .ok r' := by
  intro first second r r'
  obtain ⟨writes, again⟩ := text_read_back
  have writable : ∀ n ∈ r.nodes, ∀ a, n.annotations = some a → a.isExact ∧ a.normal = a := by
    simp only [r, first, second, List.forall_mem_cons, List.not_mem_nil, false_implies,
      implies_true, and_true, Option.some.injEq, forall_eq']
    exact ⟨⟨rfl, rfl⟩, ⟨by decide, rfl⟩⟩
  have read : format.read.run (Symbol.ofString r.toJson.render) = .ok r' :=
    writes r writable (by decide)
  have exact' : ∀ n ∈ r'.nodes, ∀ a, n.annotations = some a → a.isExact := by
    have whole : ∀ a, second.annotations = some a → a.isExact := fun a annotated =>
      (writable second (by simp [r]) a annotated).1
    simpa [r', r] using whole
  exact ⟨read, (again _ r' read exact').1⟩

end IngestRequest

end GraphIngest
