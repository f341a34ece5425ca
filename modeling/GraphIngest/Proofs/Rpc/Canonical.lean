import GraphIngest.Proofs.Graph.Written
import GraphIngest.Proofs.Json.Meaning
import GraphIngest.Proofs.Json.Spelled
import GraphIngest.Proofs.Rpc.Request
import GraphIngest.Store.Rendition

/-!
# Stored annotations are canonical

The text that is stored for annotations is the compact text of the normal form of their value. So it
depends on what the annotations in a request denote, and not on how they are spelled; and it tells
apart what they denote.

## Main definitions

* `IngestRequest.GivesAnnotations`: a body gives a text as the annotations of a node.
* `IngestRequest.storedAnnotations`: the text that is stored for them.

## Main results

* `IngestRequest.run_bodyText`: each text that spells a value is read as the annotations of a node,
  unless the value is nested too deeply.
* `IngestRequest.stored_annotations_same_iff`: equal texts are stored for equal meanings.
-/

namespace GraphIngest

open JsonReader

namespace Json

/-- Compact texts of normal forms tell the values apart, if they can be read. -/
theorem render_normal_eq_iff {v w : Json} (faithful : v.Faithful) (fits : v.depth ≤ greatestDepth)
    (faithful' : w.Faithful) (fits' : w.depth ≤ greatestDepth) :
    v.normal.render = w.normal.render ↔ v.normal = w.normal := by
  constructor
  · intro same
    have reads {v : Json} (faithful : v.Faithful) (fits : v.depth ≤ greatestDepth) :
        any.run (Symbol.ofString v.normal.render) = .ok v.normal :=
      any_run_render_of_any (any_ofJson faithful fits) Nat.le.refl faithful.normal
    have value := reads faithful fits
    rw [same] at value
    exact Except.ok.inj (value.symm.trans (reads faithful' fits'))
  · intro same
    rw [same]

end Json

/-- Where a value may be null, its normal form is read from a draft that is read as the value. -/
theorem Draft.ReadsAs.optional_any_iff {d : Draft} {v : Json} {held : Option Json} {room : Nat}
    (reads : d.ReadsAs v) (faithful : v.Faithful) :
    optional any room d = .ok held ↔ v.depth ≤ room ∧ held = v.normal.unlessNull := by
  have value_iff {w : Json} : any room d = .ok w ↔ v.depth ≤ room ∧ w = v.normal := by
    rw [reads room, any_ofJson_eq_ok_iff faithful]
  rw [optional_eq_ok]
  constructor
  · rintro (⟨rfl, rfl⟩ | ⟨not_null, w, value, rfl⟩)
    · obtain ⟨fits, null⟩ := value_iff.mp rfl
      exact ⟨fits, by rw [← null]; rfl⟩
    · have kept : w ≠ .null := fun null => not_null (any_eq_null (null ▸ value))
      obtain ⟨fits, rfl⟩ := value_iff.mp value
      exact ⟨fits, (Json.unlessNull_of_ne kept).symm⟩
  · rintro ⟨fits, rfl⟩
    have value := value_iff.mpr ⟨fits, rfl⟩
    by_cases null : d = .null
    · subst null
      rw [← Except.ok.inj value]
      exact .inl ⟨rfl, rfl⟩
    · have kept : v.normal ≠ .null := fun same => null (any_eq_null (same ▸ value))
      exact .inr ⟨null, v.normal, value, (Json.unlessNull_of_ne kept).symm⟩

namespace IngestRequest

/-- What stands in the place of the annotations of a node in a body. -/
def annotations? (body : List Symbol) (i : Nat) : Option Draft :=
  match (Draft.build (JsonToken.tokens body)).1.field? 0 "astNodes" with
  | some (.array ds _) => ds[i]?.bind (·.field? 6 "annotations")
  | _ => none

/-- Whether a body gives a text as the annotations of a node: what stands in their place is what the
text forms by itself. -/
def GivesAnnotations (body : List Symbol) (i : Nat) (s : List Char) : Prop :=
  annotations? body i = some (Draft.build (JsonToken.tokens (s.map .char))).1

/-- The text that is stored for the annotations of a node, if any is. -/
def storedAnnotations (r : IngestRequest) (i : Nat) : Option String :=
  (Batch.ofJson r).objects[i]?.bind (·.properties.annotations)

variable {body body' : List Symbol} {r r' : IngestRequest} {i i' : Nat} {s s' : List Char}
  {a a' : Json}

/-! ## A request for each text -/

/-- The text of a node that has annotations. -/
def nodeText (id : String) (s : List Char) : List Char :=
  '\x7b' :: (Json.quotedChars "id" ++ ':' :: (Json.quotedChars id ++
    ',' :: (Json.quotedChars "annotations" ++ ':' :: s)) ++ ['\x7d'])

/-- The text of a request with this node. -/
def bodyText (id : String) (s : List Char) : List Char :=
  '\x7b' :: (Json.quotedChars "astNodes" ++ ':' :: ('[' :: (nodeText id s ++ [']'])) ++ ['\x7d'])

/-- What the text of a node forms, if its annotations form this. -/
def nodeDraft (id : String) (annotations : Draft) : Draft :=
  .object [(.ofText "id", .text (.ofText id)), (.ofText "annotations", annotations)] .closed

theorem formedBy_nodeText (id : String) {d : Draft} (formed : d.FormedBy s) :
    (nodeDraft id d).FormedBy (nodeText id s) := by
  intro rest _
  apply Draft.Begins.object
  intro frames
  have identity (after : List Symbol) : Draft.Begins ((Json.quotedChars id).map .char ++ after)
      (.text (.ofText id)) after :=
    .of_token (JsonToken.tokens_quoted id after) fun _ => Draft.stepValue_text rfl
  have annotations := formed _ (Draft.endsBefore_punctuation (c := '\x7d') rest (by simp))
  simp only [List.map_append, List.map_cons, List.append_assoc, List.cons_append]
  rw [Draft.buildFrom_key rfl (Draft.tokens_key "id" _) fun _ => Draft.step_objectOpened,
    (identity _).nextMember,
    Draft.buildFrom_key rfl (Draft.tokens_key "annotations" _) fun _ => Draft.step_memberComma,
    annotations.lastMember]
  rfl

/-- The draft of a request holds that of its annotations. -/
theorem formedBy_bodyText (id : String) {d : Draft} (formed : d.FormedBy s) :
    (Draft.object [(.ofText "astNodes", .array [nodeDraft id d] .closed)] .closed).FormedBy
      (bodyText id s) := by
  intro rest _
  apply Draft.Begins.object
  intro frames
  have list (after : List Symbol) : Draft.Begins (('[' :: (nodeText id s ++ [']'])).map .char ++
      after) (.array [nodeDraft id d] .closed) after := by
    apply Draft.Begins.array
    intro frames
    have node := formedBy_nodeText id formed _
      (Draft.endsBefore_punctuation (c := ']') after (by simp))
    exact node.lastItem fun _ => Draft.step_listOpened
  rw [List.map_append, List.append_assoc, List.map_cons, List.cons_append,
    Draft.buildFrom_key rfl (Draft.tokens_key "astNodes" _) fun _ => Draft.step_objectOpened,
    (list _).lastMember]
  rfl

/-- Such a request gives the text as the annotations of its node. -/
theorem givesAnnotations_bodyText (id : String) (spelled : a.Spelled s) :
    GivesAnnotations ((bodyText id s).map .char) 0 s := by
  obtain ⟨d, -, formed⟩ := spelled.exists_formed
  rw [GivesAnnotations, annotations?, formed.build, (formedBy_bodyText id formed).build]
  simp [Draft.field?, Draft.member?, nodeDraft, Except.toOption]

theorem read_nodeDraft (id : String) {d : Draft} {held : Option Json} {room : Nat}
    (value : optional any room d = .ok held) : Node.read (room + 1) (nodeDraft id d) =
      .ok { (.new id "" : Node Json) with annotations := held } := by
  have identity :
      (RecordField.of "id" .text Node.Partial.id fun p v => { p with id := some v }).read
        room (.text (.ofText id)) = .ok fun p => { p with id := some id } :=
    Except.map_eq_ok.mpr ⟨id, text_ofText id, rfl⟩
  have annotations : (RecordField.of "annotations" (.optional .any) Node.Partial.annotations
      fun p v => { p with annotations := some v }).read room d =
        .ok fun p => { p with annotations := some held } :=
    Except.map_eq_ok.mpr ⟨held, value, rfl⟩
  refine RecordFormat.read_object (p := { id := some id, annotations := some held }) ?_ rfl
  rw [RecordFormat.readMembers_of_field (Quoted.read_ofText "id") rfl rfl identity,
    RecordFormat.readMembers_of_field (Quoted.read_ofText "annotations") rfl rfl annotations]
  rfl

/-- Such a request is read, unless its annotations are nested too deeply. -/
theorem run_bodyText (id : String) (spelled : a.Spelled s) (fits : a.depth < nodeRoom) :
    format.read.run ((bodyText id s).map .char) =
      .ok ⟨[{ (.new id "" : Node Json) with annotations := a.normal.unlessNull }], []⟩ := by
  obtain ⟨d, reads, formed⟩ := spelled.exists_formed
  have held : optional any (nodeRoom - 1) d = .ok a.normal.unlessNull :=
    (reads.optional_any_iff spelled.faithful).mpr ⟨Nat.le_pred_of_lt fits, rfl⟩
  have node : Node.read nodeRoom (nodeDraft id d) = .ok _ := read_nodeDraft id held
  generalize ({ (.new id "" : Node Json) with annotations := a.normal.unlessNull }) = n at node ⊢
  have list : JsonReader.list Node.read (nodeRoom + 1) (.array [nodeDraft id d] .closed) =
      .ok [n] := by
    rw [JsonReader.list, enter]
    simp only [bind, Except.bind, items, node]
    rfl
  have nodes : (RecordField.of "astNodes" (.list Node.read) Partial.nodes
      fun p v => { p with nodes := some v }).read (nodeRoom + 1) (.array [nodeDraft id d] .closed) =
        .ok fun p => { p with nodes := some [n] } :=
    Except.map_eq_ok.mpr ⟨[n], list, rfl⟩
  have whole : format.read greatestDepth
      (.object [(.ofText "astNodes", .array [nodeDraft id d] .closed)] .closed) =
        .ok ⟨[n], []⟩ := by
    refine RecordFormat.read_object (p := { nodes := some [n] }) ?_ rfl
    exact RecordFormat.readMembers_of_field (Quoted.read_ofText "astNodes") rfl rfl nodes
  rw [JsonReader.run, (formedBy_bodyText id formed).build]
  simp only [whole]
  rfl

/-! ## The stored text -/

/-- The annotations of a node are read from what stands in their place. -/
theorem exists_annotations_of_run (read : format.read.run body = .ok r) {d : Draft}
    (found : annotations? body i = some d) :
    ∃ n left, r.nodes[i]? = some n ∧ nodeRoom = left + 1 ∧
      optional any left d = .ok n.annotations := by
  have nodes := nodes_of_field read
  unfold annotations? at found
  cases list : (Draft.build (JsonToken.tokens body)).1.field? 0 "astNodes" with
  | none => simp [list] at found
  | some d' =>
    rw [list] at nodes found
    obtain ⟨ds, ending, rfl, items⟩ := nodes
    obtain ⟨item, at_place, field⟩ := Option.bind_eq_some_iff.mp found
    obtain ⟨n, node, value⟩ := exists_getElem?_of_items items at_place
    obtain ⟨left, room, held⟩ := Node.annotations_of_read value
    rw [field] at held
    exact ⟨n, left, node, room, held⟩

/-- The text that is stored for annotations is that of the normal form of their value. -/
theorem storedAnnotations_of_spelled (read : format.read.run body = .ok r)
    (given : GivesAnnotations body i s) (spelled : a.Spelled s) :
    a.depth ≤ greatestDepth ∧ r.storedAnnotations i = a.normal.unlessNull.map Json.render := by
  obtain ⟨n, left, node, room, held⟩ := exists_annotations_of_run read given
  obtain ⟨d, reads, formed⟩ := spelled.exists_formed
  rw [formed.build] at held
  obtain ⟨fits, annotations⟩ := (reads.optional_any_iff spelled.faithful).mp held
  refine ⟨by unfold nodeRoom at room; omega, ?_⟩
  rw [storedAnnotations, Batch.objects_ofJson, List.getElem?_map, node, ← annotations]
  rfl

/-- Two requests store the same text for annotations if and only if the texts of these annotations
denote the same value, and that is not null. The texts are any that spell a value whose numbers are
integers of sixty-four bits, or zero with a minus sign, which is another number than zero. -/
theorem stored_annotations_same_iff (read : format.read.run body = .ok r)
    (read' : format.read.run body' = .ok r') (given : GivesAnnotations body i s)
    (given' : GivesAnnotations body' i' s') (spelled : a.Spelled s) (spelled' : a'.Spelled s') :
    (∃ text, r.storedAnnotations i = some text ∧ r'.storedAnnotations i' = some text) ↔
      a.meaning = a'.meaning ∧ a.meaning ≠ .null := by
  obtain ⟨fits, stored⟩ := storedAnnotations_of_spelled read given spelled
  obtain ⟨fits', stored'⟩ := storedAnnotations_of_spelled read' given' spelled'
  have same_text := Json.render_normal_eq_iff spelled.faithful fits spelled'.faithful fits'
  have null_iff (v : Json) : v.meaning = .null ↔ v.normal = .null :=
    Json.meaning_eq_iff (w := .null)
  rw [stored, stored', Json.meaning_eq_iff, ne_eq, null_iff]
  by_cases null : a.normal = .null
  · simp [null, Json.unlessNull]
  by_cases null' : a'.normal = .null
  · simp [null', Json.unlessNull]
  rw [Json.unlessNull_of_ne null, Json.unlessNull_of_ne null', ← same_text]
  simp [null, eq_comm]

/-- Annotations with a blank, an escape, and two members of one name. -/
def respelledText : List Char := "\x7b \"b\":0,\"b\":-1,\"a\":\"\\u0041\"\x7d".toList

/-- Annotations without them, and with their members in another order. -/
def plainText : List Char := "\x7b\"a\":\"A\",\"b\":-1\x7d".toList

/-- The values that are spelled there. -/
theorem spelled_respelledText :
    (Json.object [("b", .int 0), ("b", .int (-1)), ("a", .text "A")]).Spelled respelledText ∧
      (Json.object [("a", .text "A"), ("b", .int (-1))]).Spelled plainText := by
  have letter (c : Char) (plain : 32 ≤ c.toNat ∧ c ≠ '"' ∧ c ≠ '\\') :
      SpellsText (String.ofList [c]) ['"', c, '"'] :=
    .quoted (.cons (.itself plain.1 plain.2.1 plain.2.2) .nil)
  have number (n : Int) (fits : -9223372036854775808 ≤ n ∧ n ≤ 18446744073709551615) :
      (Json.int n).Spelled (toString n).toList := .int fits.1 fits.2
  have point : SpellsUnit 'A'.toNat ['0', '0', '4', '1'] := by
    have zero : IsHexDigit 0 '0' := ⟨by decide, by decide⟩
    have four : IsHexDigit 4 '4' := ⟨by decide, by decide⟩
    have one : IsHexDigit 1 '1' := ⟨by decide, by decide⟩
    exact .digits zero zero four one
  have escaped : SpellsText "A" ['"', '\\', 'u', '0', '0', '4', '1', '"'] :=
    .quoted (.cons (.unit point) .nil)
  have nothing : Blanks [] := by simp [Blanks]
  have blank : Blanks [' '] := by simp [Blanks]
  have first : SpellsKey "a" ['"', 'a', '"'] := .padded nothing (letter 'a' (by decide)) nothing
  have second : SpellsKey "b" ['"', 'b', '"'] := .padded nothing (letter 'b' (by decide)) nothing
  have spaced : SpellsKey "b" [' ', '"', 'b', '"'] := .padded blank (letter 'b' (by decide)) nothing
  constructor
  · exact .object (.nextMember spaced (number 0 (by decide))
      (.nextMember second (number (-1) (by decide)) (.lastMember first (.text escaped))))
  · exact .object (.nextMember first (.text (letter 'A' (by decide)))
      (.lastMember second (number (-1) (by decide))))

/-- Both are stored as one text. -/
theorem stored_annotations_same_iff_respelled :
    ∃ r r', format.read.run ((bodyText "x" respelledText).map .char) = .ok r ∧
      format.read.run ((bodyText "y" plainText).map .char) = .ok r' ∧
      ∃ text, r.storedAnnotations 0 = some text ∧ r'.storedAnnotations 0 = some text := by
  obtain ⟨spelled, spelled'⟩ := spelled_respelledText
  have read := run_bodyText "x" spelled (by decide)
  have read' := run_bodyText "y" spelled' (by decide)
  have given := givesAnnotations_bodyText "x" spelled
  have given' := givesAnnotations_bodyText "y" spelled'
  have same := stored_annotations_same_iff read read' given given' spelled spelled'
  exact ⟨_, _, read, read', same.mpr ⟨Json.meaning_eq_iff.mpr rfl, by simp [Json.meaning]⟩⟩

end IngestRequest

end GraphIngest
