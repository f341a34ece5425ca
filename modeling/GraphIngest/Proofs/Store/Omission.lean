import GraphIngest.Proofs.Ingest.Annotations
import GraphIngest.Proofs.Json.Reader

/-!
# Annotations that are left out

Annotations are written as a whole or left out as a whole. They are left out if some part of them
has no form where it stands, and the first such part, in the order of writing, says why. What has a
form depends on where it stands: keys are texts.

## Main definitions

* `Payload.parts`: all parts of a payload, in the order of writing.
* `Payload.Part.reason?`: why a part has no form where it stands.
* `Payload.findSome?_parts`: the first part without a form decides.
* `Payload.text`: what is written for a payload, part by part.
* `Node.annotations_all_or_nothing`: annotations are left out, or their text is complete.
-/

namespace GraphIngest

/-! ## Text of values -/

namespace Json

/-- Items are written with commas between them. -/
theorem itemsChars_eq (vs : List Json) :
    itemsChars vs = [','].intercalate (vs.map chars) := by
  induction vs with
  | nil => rfl
  | cons v rest ih =>
    cases rest with
    | nil => simp [itemsChars]
    | cons w rest =>
      have step : itemsChars (v :: w :: rest) = v.chars ++ ',' :: itemsChars (w :: rest) :=
        rfl
      rw [step, ih]
      simp

/-- Members are written with commas between them. -/
theorem membersChars_eq (ms : List (String × Json)) : membersChars ms =
    [','].intercalate (ms.map fun m => quotedChars m.1 ++ ':' :: m.2.chars) := by
  induction ms with
  | nil => rfl
  | cons m rest ih =>
    cases rest with
    | nil => simp [membersChars]
    | cons m' rest =>
      have step : membersChars (m :: m' :: rest) =
          quotedChars m.1 ++ ':' :: (m.2.chars ++ ',' :: membersChars (m' :: rest)) := rfl
      rw [step, ih]
      simp

end Json

namespace Payload

/-! ## Parts -/

/-- Where a part of a payload stands. -/
inductive Role where
  | value
  | key
  deriving DecidableEq, Repr

/-- A part of a payload, and where it stands. -/
structure Part where
  role : Role
  payload : Payload

mutual

/-- All parts of a payload that stands somewhere, in the order of writing: a part comes before what
it is made of, a key before its value. -/
def parts (role : Role) : Payload → List Part
  | json v => [⟨role, json v⟩]
  | refusal reason => [⟨role, refusal reason⟩]
  | number n => [⟨role, number n⟩]
  | notFinite => [⟨role, notFinite⟩]
  | char c => [⟨role, char c⟩]
  | bytes values => [⟨role, bytes values⟩]
  | absent => [⟨role, absent⟩]
  | present p => ⟨role, present p⟩ :: parts role p
  | name s => [⟨role, name s⟩]
  | tagged s p => ⟨role, tagged s p⟩ :: parts .value p
  | list items => ⟨role, list items⟩ :: itemParts items
  | map entries => ⟨role, map entries⟩ :: entryParts entries

def itemParts : List Payload → List Part
  | [] => []
  | p :: rest => parts .value p ++ itemParts rest

def entryParts : List (Payload × Payload) → List Part
  | [] => []
  | (k, p) :: rest => parts .key k ++ (parts .value p ++ entryParts rest)

end

/-- Why a part has no form where it stands. A part that refuses has none anywhere; a key has none
unless it is a text, a finite number or a truth value. -/
def Part.reason? : Part → Option String
  | ⟨_, refusal reason⟩ => some reason
  | ⟨.key, notFinite⟩ => some keyNotFinite
  | ⟨.key, json .null⟩ | ⟨.key, json (.array _)⟩ | ⟨.key, json (.object _)⟩ | ⟨.key, bytes _⟩
  | ⟨.key, absent⟩ | ⟨.key, tagged _ _⟩ | ⟨.key, list _⟩ | ⟨.key, map _⟩ => some keyNotText
  | ⟨_, _⟩ => none

/-- A value has a form unless it refuses. -/
theorem exists_refusal_of_value {part : Part} {reason : String} (value : part.role = .value)
    (h : part.reason? = some reason) : part.payload = refusal reason := by
  obtain ⟨role, p⟩ := part
  obtain rfl : role = .value := value
  cases p <;> simp_all [Part.reason?]

/-! ## The first part without a form -/

/-- Why there is no result. -/
def error? : Except String α → Option String
  | .error reason => some reason
  | .ok _ => none

/-- What comes first fails first. -/
theorem error?_bind {x : Except String α} {f : α → Except String β} {later : Option String}
    (h : ∀ a, error? (f a) = later) : error? (x >>= f) = (error? x).or later := by
  cases x with
  | error reason => rfl
  | ok a => exact h a

/-- Induction over a payload and everything it is made of. -/
@[elab_as_elim]
theorem induction {P : Payload → Prop} (json : ∀ v, P (json v)) (refusal : ∀ r, P (refusal r))
    (number : ∀ n, P (number n)) (notFinite : P notFinite) (char : ∀ c, P (char c))
    (bytes : ∀ values, P (bytes values)) (absent : P absent)
    (present : ∀ p, P p → P (present p)) (name : ∀ s, P (name s))
    (tagged : ∀ s p, P p → P (tagged s p))
    (list : ∀ items, (∀ p ∈ items, P p) → P (list items))
    (map : ∀ entries, (∀ e ∈ entries, P e.1 ∧ P e.2) → P (map entries)) : ∀ p, P p
  | .json v => json v
  | .refusal r => refusal r
  | .number n => number n
  | .notFinite => notFinite
  | .char c => char c
  | .bytes values => bytes values
  | .absent => absent
  | .present p => present p (induction json refusal number notFinite char bytes absent present name
      tagged list map p)
  | .name s => name s
  | .tagged s p => tagged s p (induction json refusal number notFinite char bytes absent present
      name tagged list map p)
  | .list items => list items fun p _ => induction json refusal number notFinite char bytes absent
      present name tagged list map p
  | .map entries => map entries fun e _ =>
      ⟨induction json refusal number notFinite char bytes absent present name tagged list map e.1,
        induction json refusal number notFinite char bytes absent present name tagged list map e.2⟩
termination_by p => sizeOf p
decreasing_by
  · simp only [Payload.present.sizeOf_spec]
    omega
  · simp only [Payload.tagged.sizeOf_spec]
    omega
  · have := List.sizeOf_lt_of_mem ‹_ ∈ items›
    simp only [Payload.list.sizeOf_spec]
    omega
  · have := List.sizeOf_lt_of_mem ‹_ ∈ entries›
    have : sizeOf e.1 < sizeOf e := by cases e; simp only [Prod.mk.sizeOf_spec]; omega
    simp only [Payload.map.sizeOf_spec]
    omega
  · have := List.sizeOf_lt_of_mem ‹_ ∈ entries›
    have : sizeOf e.2 < sizeOf e := by cases e; simp only [Prod.mk.sizeOf_spec]; omega
    simp only [Payload.map.sizeOf_spec]
    omega

/-- What comes last cannot fail. -/
theorem error?_bind_pure {x : Except String α} {f : α → β} :
    error? (x >>= fun a => .ok (f a)) = error? x := by
  cases x <;> rfl

theorem findSome?_key (p : Payload) : (p.parts .key).findSome? Part.reason? = error? p.key := by
  induction p using induction with
  | json v => cases v <;> rfl
  | present p ih =>
    rw [parts, List.findSome?_cons, key]
    exact ih
  | list items | map entries | tagged s p => rfl
  | refusal | number | notFinite | char | bytes | absent | name => rfl

theorem findSome?_itemParts {items : List Payload}
    (each : ∀ p ∈ items, (p.parts .value).findSome? Part.reason? = error? p.toJson) :
    (itemParts items).findSome? Part.reason? = error? (itemsToJson items) := by
  induction items with
  | nil => rfl
  | cons p rest ih =>
    have later := ih fun q among => each q (List.mem_cons_of_mem _ among)
    rw [itemParts, List.findSome?_append, each p List.mem_cons_self, later, itemsToJson]
    exact (error?_bind fun v => error?_bind_pure).symm

theorem findSome?_entryParts {entries : List (Payload × Payload)}
    (each : ∀ e ∈ entries, (e.2.parts .value).findSome? Part.reason? = error? e.2.toJson) :
    (entryParts entries).findSome? Part.reason? = error? (entriesToJson entries) := by
  induction entries with
  | nil => rfl
  | cons e rest ih =>
    obtain ⟨k, p⟩ := e
    have later := ih fun q among => each q (List.mem_cons_of_mem _ among)
    rw [entryParts, List.findSome?_append, List.findSome?_append, findSome?_key,
      each (k, p) List.mem_cons_self, later, entriesToJson]
    exact (error?_bind fun s => error?_bind fun v => error?_bind_pure).symm

/-- The first part without a form decides why a payload has none. -/
theorem findSome?_parts (p : Payload) :
    (p.parts .value).findSome? Part.reason? = error? p.toJson := by
  induction p using induction with
  | json v => cases v <;> rfl
  | refusal | number | notFinite | char | bytes | absent | name => rfl
  | present p ih =>
    rw [parts, List.findSome?_cons, toJson]
    exact ih
  | tagged s p ih =>
    rw [parts, List.findSome?_cons, toJson]
    exact ih.trans error?_bind_pure.symm
  | list items ih =>
    rw [parts, List.findSome?_cons, toJson]
    exact (findSome?_itemParts ih).trans error?_bind_pure.symm
  | map entries ih =>
    rw [parts, List.findSome?_cons, toJson]
    exact (findSome?_entryParts fun e among => (ih e among).2).trans error?_bind_pure.symm

/-! ## Text -/

/-- The text that is written for a key. -/
def keyText : Payload → String
  | json (.text s) => s
  | json (.number n) => n.render
  | json (.bool b) => toString b
  | number n => n.render
  | char c => String.singleton c
  | name s => s
  | present p => keyText p
  | json _ | refusal _ | notFinite | bytes _ | absent | tagged _ _ | list _ | map _ => ""

mutual

/-- What is written for a payload, part by part; nothing for a part that refuses. -/
def chars : Payload → List Char
  | json v => v.chars
  | refusal _ => []
  | number n => n.render.toList
  | notFinite | absent => "null".toList
  | char c => Json.quotedChars (String.singleton c)
  | bytes values => '[' :: ([','].intercalate (values.map fun n => (Json.nat n).chars) ++ [']'])
  | present p => chars p
  | name s => Json.quotedChars s
  | tagged s p => '{' :: (Json.quotedChars s ++ ':' :: chars p ++ ['}'])
  | list items => '[' :: ([','].intercalate (itemChars items) ++ [']'])
  | map entries => '{' :: ([','].intercalate (entryChars entries) ++ ['}'])

/-- What is written for each item. -/
def itemChars : List Payload → List (List Char)
  | [] => []
  | p :: rest => chars p :: itemChars rest

/-- What is written for each entry. -/
def entryChars : List (Payload × Payload) → List (List Char)
  | [] => []
  | (k, p) :: rest => (Json.quotedChars (keyText k) ++ ':' :: chars p) :: entryChars rest

end

/-- What is written for a payload. -/
def text (p : Payload) : String := String.ofList p.chars

theorem keyText_of_key {p : Payload} {s : String} (h : p.key = .ok s) : p.keyText = s := by
  induction p using induction with
  | json v => cases v <;> simp_all [key, jsonKey, keyText]
  | present p ih => exact ih h
  | number | char | name => exact Except.ok.inj h
  | refusal | notFinite | bytes | absent | tagged | list | map => cases h

theorem itemChars_of_itemsToJson {items : List Payload}
    (each : ∀ p ∈ items, ∀ v, p.toJson = .ok v → v.chars = p.chars) {vs : List Json}
    (h : itemsToJson items = .ok vs) : vs.map Json.chars = itemChars items := by
  induction items generalizing vs with
  | nil =>
    obtain rfl := Except.ok.inj h
    rfl
  | cons p rest ih =>
    rw [itemsToJson] at h
    obtain ⟨v, first, h⟩ := Except.bind_eq_ok.mp h
    obtain ⟨others, later, h⟩ := Except.bind_eq_ok.mp h
    obtain rfl := Except.ok.inj h
    rw [List.map_cons, itemChars, each p List.mem_cons_self v first,
      ih (fun q among => each q (List.mem_cons_of_mem _ among)) later]

theorem entryChars_of_entriesToJson {entries : List (Payload × Payload)}
    (each : ∀ e ∈ entries, ∀ v, e.2.toJson = .ok v → v.chars = e.2.chars)
    {ms : List (String × Json)} (h : entriesToJson entries = .ok ms) :
    ms.map (fun m => Json.quotedChars m.1 ++ ':' :: m.2.chars) = entryChars entries := by
  induction entries generalizing ms with
  | nil =>
    obtain rfl := Except.ok.inj h
    rfl
  | cons e rest ih =>
    obtain ⟨k, p⟩ := e
    rw [entriesToJson] at h
    obtain ⟨s, named, h⟩ := Except.bind_eq_ok.mp h
    obtain ⟨v, first, h⟩ := Except.bind_eq_ok.mp h
    obtain ⟨others, later, h⟩ := Except.bind_eq_ok.mp h
    obtain rfl := Except.ok.inj h
    rw [List.map_cons, entryChars, keyText_of_key named, each (k, p) List.mem_cons_self v first,
      ih (fun q among => each q (List.mem_cons_of_mem _ among)) later]

/-- What is written for a payload that has a JSON form is the text of that. -/
theorem chars_of_toJson {p : Payload} {v : Json} (h : p.toJson = .ok v) : v.chars = p.chars := by
  induction p using induction generalizing v with
  | present p ih => exact ih h
  | tagged s p ih =>
    rw [toJson] at h
    obtain ⟨w, content, h⟩ := Except.bind_eq_ok.mp h
    obtain rfl := Except.ok.inj h
    simp [Json.chars, Json.membersChars, chars, ih content]
  | list items ih =>
    rw [toJson] at h
    obtain ⟨vs, written, h⟩ := Except.bind_eq_ok.mp h
    obtain rfl := Except.ok.inj h
    rw [Json.chars, Json.itemsChars_eq,
      itemChars_of_itemsToJson (fun p among v => ih p among) written, chars]
  | map entries ih =>
    rw [toJson] at h
    obtain ⟨ms, written, h⟩ := Except.bind_eq_ok.mp h
    obtain rfl := Except.ok.inj h
    rw [Json.chars, Json.membersChars_eq,
      entryChars_of_entriesToJson (fun e among v => (ih e among).2) written, chars]
  | bytes values =>
    obtain rfl := Except.ok.inj h
    rw [Json.chars, Json.itemsChars_eq, List.map_map, chars]
    rfl
  | refusal => cases h
  | json | number | notFinite | char | absent | name =>
    obtain rfl := Except.ok.inj h
    rfl

/-- A payload is written as a whole, or not at all. -/
theorem render_eq (p : Payload) : p.render =
    match (p.parts .value).findSome? Part.reason? with
    | none => .ok p.text
    | some reason => .error reason := by
  rw [findSome?_parts, render]
  cases form : p.toJson with
  | error reason => rfl
  | ok v =>
    have whole : v.render = p.text := congrArg String.ofList (chars_of_toJson form)
    exact congrArg Except.ok whole

end Payload

/-! ## Nodes -/

/-- The annotations of an object are a property exactly if there are any. -/
theorem Properties.get?_annotations (p : Properties) :
    p.toJson.get? "annotations" = p.annotations.map .text := by
  cases annotations : p.annotations <;>
    simp [toJson, annotations, Json.get?, Span.members, List.lookup_cons]

namespace Node

theorem rendition_withAnnotations (n : Node Payload) (p : Payload) :
    (n.withAnnotations p).rendition =
      match (p.parts .value).findSome? Payload.Part.reason? with
      | none => ⟨n.toObject (some p.text), none⟩
      | some reason => ⟨n.bare.rendition.object, some ⟨n.id, reason⟩⟩ := by
  rw [rendition, withAnnotations]
  dsimp only
  rw [p.render_eq]
  cases (p.parts .value).findSome? Payload.Part.reason? <;> rfl

/-- The annotations of an object are left out exactly if some part of them has no form where it
stands. Then the object is that of the node without annotations, and what is told names the node and
says why the first such part has none. Otherwise the annotations are the text of all parts, and
nothing is told. A value has no form only if it refuses. -/
theorem annotations_all_or_nothing (n : Node Payload) (p : Payload) :
    let r := (n.withAnnotations p).rendition
    (r.object.properties.toJson.get? "annotations" = none ↔
      ∃ part ∈ p.parts .value, part.reason? ≠ none) ∧
    (∀ before part after reason, p.parts .value = before ++ part :: after →
      (∀ earlier ∈ before, earlier.reason? = none) → part.reason? = some reason →
      r.object = n.bare.rendition.object ∧ r.omission = some ⟨n.id, reason⟩) ∧
    ((∀ part ∈ p.parts .value, part.reason? = none) →
      r.object = n.toObject (some p.text) ∧ r.omission = none) ∧
    ∀ part ∈ p.parts .value, part.role = .value →
      ∀ reason, part.reason? = some reason → part.payload = .refusal reason := by
  intro r
  have whole : r = _ := n.rendition_withAnnotations p
  refine ⟨?_, fun before part after reason split fine fails => ?_, fun fine => ?_,
    fun part _ value reason fails => Payload.exists_refusal_of_value value fails⟩
  · rw [Properties.get?_annotations, Option.map_eq_none_iff]
    cases first : (p.parts .value).findSome? Payload.Part.reason? with
    | none =>
      have fine := List.findSome?_eq_none_iff.mp first
      simp only [whole, first]
      constructor
      · intro left
        cases left
      · rintro ⟨part, among, fails⟩
        exact absurd (fine part among) fails
    | some reason =>
      obtain ⟨_, part, _, split, fails, -⟩ := List.findSome?_eq_some_iff.mp first
      simp only [whole, first]
      exact ⟨fun _ => ⟨part, by simp [split], by simp [fails]⟩, fun _ => rfl⟩
  · have first : (p.parts .value).findSome? Payload.Part.reason? = some reason :=
      List.findSome?_eq_some_iff.mpr ⟨before, part, after, split, fails, fine⟩
    rw [whole, first]
    exact ⟨rfl, rfl⟩
  · have none : (p.parts .value).findSome? Payload.Part.reason? = none :=
      List.findSome?_eq_none_iff.mpr fine
    rw [whole, none]
    exact ⟨rfl, rfl⟩

/-- A list is no key: that comes after a number without a finite form, which is written as null, and
before a value that refuses. Without that entry everything is written. -/
theorem annotations_all_or_nothing_key :
    let n : Node Payload := .new "a" "call"
    let left := (n.withAnnotations
      (.map [(.name "a", .notFinite), (.list [], .refusal "no")])).rendition
    let kept := (n.withAnnotations (.map [(.name "a", .notFinite)])).rendition
    left.object = n.bare.rendition.object ∧ left.omission = some ⟨"a", Payload.keyNotText⟩ ∧
      kept.object = n.toObject (some "\x7b\"a\":null\x7d") ∧ kept.omission = none := by
  intro n left kept
  obtain ⟨-, fails, -, -⟩ := annotations_all_or_nothing n
    (.map [(.name "a", .notFinite), (.list [], .refusal "no")])
  obtain ⟨-, -, fine, -⟩ := annotations_all_or_nothing n (.map [(.name "a", .notFinite)])
  obtain ⟨object, omission⟩ := fails [⟨.value, .map [(.name "a", .notFinite),
    (.list [], .refusal "no")]⟩, ⟨.key, .name "a"⟩, ⟨.value, .notFinite⟩] ⟨.key, .list []⟩
    [⟨.value, .refusal "no"⟩] Payload.keyNotText rfl (by simp [Payload.Part.reason?]) rfl
  obtain ⟨object', omission'⟩ := fine
    (by simp [Payload.parts, Payload.entryParts, Payload.Part.reason?])
  exact ⟨object, omission, object', omission'⟩

end Node

end GraphIngest
