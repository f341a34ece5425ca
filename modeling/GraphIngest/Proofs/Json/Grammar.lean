import GraphIngest.Payload
import GraphIngest.Proofs.Json.Spelled
import GraphIngest.Proofs.Json.WellFormed

/-!
# Written values are grammatical

What is written for a value is derived by the grammar of JSON, and without any blank between its
parts. So is what is written for a payload, whatever it is made of.

## Main definitions

* `JsonGrammar.Derives`: the texts that the grammar derives, with some kind of gaps between parts.
* `JsonGrammar.derives_chars`: the text of a value is derived without gaps.
* `Json.wellFormed_render`: the text of a value is well formed to its end.
* `Payload.render_grammatical`: the text of a payload is grammatical.
-/

namespace GraphIngest

namespace JsonGrammar

/-- The parts of a text: a value, or what stands between the brackets of a container that is not
empty. -/
inductive Part where
  | value
  | items
  | members

/-- The texts that the grammar derives. Gaps may stand around values and keys; what they are made of
is left open. A key is a text in quotes. -/
inductive Derives (gap : List Char → Prop) : Part → List Char → Prop
  | null : Derives gap .value ['n', 'u', 'l', 'l']
  | true : Derives gap .value ['t', 'r', 'u', 'e']
  | false : Derives gap .value ['f', 'a', 'l', 's', 'e']
  | number {cs : List Char} (numeral : Number cs) : Derives gap .value cs
  | text {s : String} {cs : List Char} (quoted : SpellsText s cs) : Derives gap .value cs
  | padded {before cs after : List Char} (left : gap before) (inner : Derives gap .value cs)
      (right : gap after) : Derives gap .value (before ++ (cs ++ after))
  | emptyArray {cs : List Char} (inner : gap cs) : Derives gap .value ('[' :: (cs ++ [']']))
  | array {cs : List Char} (inner : Derives gap .items cs) :
      Derives gap .value ('[' :: (cs ++ [']']))
  | emptyObject {cs : List Char} (inner : gap cs) :
      Derives gap .value ('\x7b' :: (cs ++ ['\x7d']))
  | object {cs : List Char} (inner : Derives gap .members cs) :
      Derives gap .value ('\x7b' :: (cs ++ ['\x7d']))
  | lastItem {cs : List Char} (last : Derives gap .value cs) : Derives gap .items cs
  | nextItem {cs cs' : List Char} (first : Derives gap .value cs)
      (others : Derives gap .items cs') : Derives gap .items (cs ++ ',' :: cs')
  | lastMember {name : String} {before key after cs : List Char} (left : gap before)
      (quoted : SpellsText name key) (right : gap after) (last : Derives gap .value cs) :
      Derives gap .members (before ++ (key ++ (after ++ ':' :: cs)))
  | nextMember {name : String} {before key after cs cs' : List Char} (left : gap before)
      (quoted : SpellsText name key) (right : gap after) (first : Derives gap .value cs)
      (others : Derives gap .members cs') :
      Derives gap .members (before ++ (key ++ (after ++ ':' :: (cs ++ ',' :: cs'))))

/-! ## Texts -/

theorem spellsUnit_control : ∀ n < 32,
    SpellsUnit n ['0', '0', Nat.digitChar (n / 16), Nat.digitChar (n % 16)] := by
  intro n small
  have zero : IsHexDigit 0 '0' := ⟨by decide, .inl rfl⟩
  have digit (d : Nat) (least : d < 16) : IsHexDigit d d.digitChar := ⟨least, .inl rfl⟩
  have unit := SpellsUnit.digits zero zero (digit (n / 16) (by omega)) (digit (n % 16) (by omega))
  have same : 0 * 4096 + 0 * 256 + n / 16 * 16 + n % 16 = n := by omega
  rwa [same] at unit

/-- A character is escaped if it has to be. -/
theorem spellsChar_escape (c : Char) : SpellsChar c (Json.escape c) := by
  by_cases short : c ∈ ['"', '\\', '\n', '\r', '\t', Char.ofNat 8, Char.ofNat 12]
  · simp only [List.mem_cons, List.not_mem_nil, or_false] at short
    obtain rfl | rfl | rfl | rfl | rfl | rfl | rfl := short <;>
      exact .short (by decide)
  simp only [List.mem_cons, List.not_mem_nil, or_false, not_or] at short
  obtain ⟨quote, backslash, newline, ret, tab, back, feed⟩ := short
  have other (n : Nat) (differs : c ≠ Char.ofNat n) : c.toNat ≠ n := fun same => differs (by
    rw [← same, Char.ofNat_toNat])
  simp only [Json.escape, quote, backslash, newline, ret, tab, other 8 back, other 12 feed,
    if_false]
  split
  · next control => exact .unit (spellsUnit_control c.toNat control)
  · next printable => exact .itself (Nat.not_lt.mp printable) quote backslash

theorem spellsChars_escape (cs : List Char) : SpellsChars cs (cs.flatMap Json.escape) := by
  induction cs with
  | nil => exact .nil
  | cons c cs ih => exact .cons (spellsChar_escape c) ih

theorem spellsText_quotedChars (s : String) : SpellsText s (Json.quotedChars s) := by
  have quoted := SpellsText.quoted (spellsChars_escape s.toList)
  rwa [String.ofList_toList] at quoted

/-! ## Values -/

section Values

variable {gap : List Char → Prop}

theorem derives_items {v : Json} {vs : List Json}
    (each : ∀ w ∈ v :: vs, Derives gap .value w.chars) :
    Derives gap .items (Json.itemsChars (v :: vs)) := by
  induction vs generalizing v with
  | nil => exact .lastItem (each v (by simp))
  | cons w ws ih =>
    exact .nextItem (each v (by simp)) (ih fun x among => each x (List.mem_cons_of_mem v among))

variable (empty : gap [])
include empty

theorem derives_members {m : String × Json} {ms : List (String × Json)}
    (each : ∀ x ∈ m :: ms, Derives gap .value x.2.chars) :
    Derives gap .members (Json.membersChars (m :: ms)) := by
  have key := spellsText_quotedChars m.1
  induction ms generalizing m with
  | nil => exact .lastMember empty key empty (each m (by simp))
  | cons m' ms ih =>
    exact .nextMember empty key empty (each m (by simp))
      (ih (fun x among => each x (List.mem_cons_of_mem m among)) (spellsText_quotedChars m'.1))

/-- The text of a value is derived, and needs no gaps. -/
theorem derives_chars (v : Json) : Derives gap .value v.chars := by
  induction v using Json.induction with
  | null => exact .null
  | bool b =>
    cases b with
    | true => exact .true
    | false => exact .false
  | number n => exact .number (number_render n)
  | text s => exact .text (spellsText_quotedChars s)
  | array items ih =>
    cases items with
    | nil => exact .emptyArray empty
    | cons v vs => exact .array (derives_items ih)
  | object members ih =>
    cases members with
    | nil => exact .emptyObject empty
    | cons m ms => exact .object (derives_members empty ih)

end Values

end JsonGrammar

/-! ## Reading -/

theorem Draft.skip_ofJson (v : Json) : (ofJson v).skip = .ok () := by
  induction v using Json.induction with
  | null | bool | number => rfl
  | text s => exact Quoted.skip_of_read (Quoted.read_ofText s)
  | array items ih =>
    refine skip_array (fun d among => ?_) rfl
    rw [ofItems_eq] at among
    obtain ⟨v, inside, rfl⟩ := List.mem_map.mp among
    exact ih v inside
  | object members ih =>
    refine skip_object (fun m among => ?_) rfl
    rw [ofMembers_eq] at among
    obtain ⟨m, inside, rfl⟩ := List.mem_map.mp among
    exact ⟨Quoted.skip_of_read (Quoted.read_ofText m.1), ih m inside⟩

/-- The text of a value is one value and well formed to its end. -/
theorem Json.wellFormed_render (v : Json) : WellFormed (Symbol.ofString v.render) := by
  rw [WellFormed, Draft.build_render]
  exact ⟨Draft.skip_ofJson v, rfl⟩

/-! ## Payloads -/

namespace Payload

/-- What is written for a payload, if anything is, is one value of the grammar, with blanks allowed
between its parts or without any: its keys are texts in quotes, and what has to be escaped between
quotes is escaped. It is well formed to its end for those who read it, too. -/
theorem render_grammatical {p : Payload} {s : String} (written : p.render = .ok s) :
    JsonGrammar.Derives (· = []) .value s.toList ∧ JsonGrammar.Derives Blanks .value s.toList ∧
      Json.WellFormed (Symbol.ofString s) := by
  obtain ⟨v, -, rfl⟩ := Except.map_eq_ok.mp written
  have text : v.render.toList = v.chars := String.toList_ofList
  rw [text]
  exact ⟨JsonGrammar.derives_chars (by rfl) v, JsonGrammar.derives_chars (by simp [Blanks]) v,
    Json.wellFormed_render v⟩

/-- A number of a hundred and twenty-eight bits and other keys that are no texts. Two of the keys
are written alike. -/
def assorted : Payload := .map [
  (.number (.int 340282366920938463463374607431768211455), .list [.notFinite, .bytes [0, 255]]),
  (.char '\n', .tagged "case" (.present (.number (.single ⟨true, 12582912, -23⟩)))),
  (.json (.bool true), .absent),
  (.name "true", .name "\"")]

theorem render_grammatical_assorted :
    let text := "\x7b\"340282366920938463463374607431768211455\":[null,[0,255]]," ++
      "\"\\n\":\x7b\"case\":-1.5\x7d,\"true\":null,\"true\":\"\\\"\"\x7d"
    assorted.render = .ok text ∧ JsonGrammar.Derives (· = []) .value text.toList ∧
      Json.WellFormed (Symbol.ofString text) := by
  intro text
  have written : assorted.render = .ok text := by
    have form : assorted.toJson = .ok (.object [
      ("340282366920938463463374607431768211455", .array [.null, .array [.nat 0, .nat 255]]),
      ("\n", .object [("case", .number (.single ⟨true, 12582912, -23⟩))]),
      ("true", .null), ("true", .text "\"")]) := by rfl
    rw [render, form]
    refine congrArg Except.ok (String.toList_injective ?_)
    decide +kernel
  obtain ⟨compact, -, read⟩ := render_grammatical written
  exact ⟨written, compact, read⟩

end Payload

end GraphIngest
