import GraphIngest.Proofs.Json.Normal

/-!
# Spellings of a value

A text may spell the same value in many ways: with blanks between its parts, and with escapes for
its characters. Whichever it uses, the value is read from it as it is from its compact text. This is
shown for texts whose numbers are integers of sixty-four bits, and for zero with a minus sign.

## Main definitions

* `SpellsChar`, `SpellsText`: the spellings of a character, and of a text in quotes.
* `Phrase.Spelled`, `Json.Spelled`: the spellings of a value.
* `Draft.ReadsAs`: a draft is read as a value is, wherever it stands.
* `Json.Spelled.exists_formed`: a text forms a draft that is read as the value that it spells.
* `Json.Spelled.any_run_iff`: the normal form of that value is read from the text, if from any.
-/

namespace GraphIngest

/-! ## Characters -/

/-- Whether a character is a hexadecimal digit of a value, of either case. -/
def IsHexDigit (n : Nat) (c : Char) : Prop := n < 16 ∧ (c = n.digitChar ∨ c = n.digitChar.toUpper)

/-- The spellings of a sixteen-bit unit by four digits. -/
inductive SpellsUnit : Nat → List Char → Prop
  | digits {n₃ n₂ n₁ n₀ : Nat} {c₃ c₂ c₁ c₀ : Char} (third : IsHexDigit n₃ c₃)
      (second : IsHexDigit n₂ c₂) (first : IsHexDigit n₁ c₁) (last : IsHexDigit n₀ c₀) :
      SpellsUnit (n₃ * 4096 + n₂ * 256 + n₁ * 16 + n₀) [c₃, c₂, c₁, c₀]

/-- The characters that have short escapes, after the letters of these. -/
def shortEscapes : List (Char × Char) :=
  [('"', '"'), ('\\', '\\'), ('/', '/'), ('b', Char.ofNat 8), ('f', Char.ofNat 12), ('n', '\n'),
    ('r', '\r'), ('t', '\t')]

/-- The spellings of a character in quotes: itself, unless it has to be escaped, a short escape, one
unit, or a pair of surrogates. -/
inductive SpellsChar : Char → List Char → Prop
  | itself {c : Char} (printable : 32 ≤ c.toNat) (unquoted : c ≠ '"') (unescaped : c ≠ '\\') :
      SpellsChar c [c]
  | short {c letter : Char} (known : (letter, c) ∈ shortEscapes) : SpellsChar c ['\\', letter]
  | unit {c : Char} {cs : List Char} (digits : SpellsUnit c.toNat cs) :
      SpellsChar c ('\\' :: 'u' :: cs)
  | pair {c : Char} {high low : Nat} {cs cs' : List Char} (leading : 0xD800 ≤ high ∧ high ≤ 0xDBFF)
      (trailing : 0xDC00 ≤ low ∧ low ≤ 0xDFFF)
      (point : c.toNat = 0x10000 + (high - 0xD800) * 0x400 + (low - 0xDC00))
      (first : SpellsUnit high cs) (second : SpellsUnit low cs') :
      SpellsChar c ('\\' :: 'u' :: (cs ++ '\\' :: 'u' :: cs'))

/-- The spellings of characters, one after another. -/
inductive SpellsChars : List Char → List Char → Prop
  | nil : SpellsChars [] []
  | cons {c : Char} {rest cs cs' : List Char} (first : SpellsChar c cs)
      (others : SpellsChars rest cs') : SpellsChars (c :: rest) (cs ++ cs')

/-- The spellings of a text in quotes. -/
inductive SpellsText : String → List Char → Prop
  | quoted {chars cs : List Char} (inner : SpellsChars chars cs) :
      SpellsText (String.ofList chars) ('"' :: (cs ++ ['"']))

/-! ## Values -/

/-- Blanks, as many as one likes. -/
def Blanks (cs : List Char) : Prop := ∀ c ∈ cs, c ∈ [' ', '\n', '\t', '\r']

/-- The spellings of a key, with blanks around it. -/
inductive SpellsKey : String → List Char → Prop
  | padded {name : String} {before key after : List Char} (left : Blanks before)
      (text : SpellsText name key) (right : Blanks after) :
      SpellsKey name (before ++ (key ++ after))

/-- A part of a text: a value, or what stands between the brackets of a container that is not
empty. -/
inductive Phrase where
  | value (v : Json)
  | items (vs : List Json)
  | members (ms : List (String × Json))

/-- The spellings of a part of a text. The members of an object have any order, and there may be
several of one name. -/
inductive Phrase.Spelled : Phrase → List Char → Prop
  | null : Spelled (.value .null) ['n', 'u', 'l', 'l']
  | true : Spelled (.value (.bool true)) ['t', 'r', 'u', 'e']
  | false : Spelled (.value (.bool false)) ['f', 'a', 'l', 's', 'e']
  | int {n : Int} (least : -9223372036854775808 ≤ n) (greatest : n ≤ 18446744073709551615) :
      Spelled (.value (.int n)) (toString n).toList
  | minusZero : Spelled (.value (.number .minusZero)) ['-', '0']
  | text {s : String} {cs : List Char} (quoted : SpellsText s cs) : Spelled (.value (.text s)) cs
  | padded {v : Json} {before cs after : List Char} (left : Blanks before)
      (inner : Spelled (.value v) cs) (right : Blanks after) :
      Spelled (.value v) (before ++ (cs ++ after))
  | emptyArray {cs : List Char} (blanks : Blanks cs) :
      Spelled (.value (.array [])) ('[' :: (cs ++ [']']))
  | array {vs : List Json} {cs : List Char} (inner : Spelled (.items vs) cs) :
      Spelled (.value (.array vs)) ('[' :: (cs ++ [']']))
  | emptyObject {cs : List Char} (blanks : Blanks cs) :
      Spelled (.value (.object [])) ('\x7b' :: (cs ++ ['\x7d']))
  | object {ms : List (String × Json)} {cs : List Char} (inner : Spelled (.members ms) cs) :
      Spelled (.value (.object ms)) ('\x7b' :: (cs ++ ['\x7d']))
  | lastItem {v : Json} {cs : List Char} (last : Spelled (.value v) cs) : Spelled (.items [v]) cs
  | nextItem {v : Json} {vs : List Json} {cs cs' : List Char} (first : Spelled (.value v) cs)
      (others : Spelled (.items vs) cs') : Spelled (.items (v :: vs)) (cs ++ ',' :: cs')
  | lastMember {name : String} {v : Json} {key cs : List Char} (named : SpellsKey name key)
      (last : Spelled (.value v) cs) : Spelled (.members [(name, v)]) (key ++ ':' :: cs)
  | nextMember {name : String} {v : Json} {ms : List (String × Json)} {key cs cs' : List Char}
      (named : SpellsKey name key) (first : Spelled (.value v) cs)
      (others : Spelled (.members ms) cs') :
      Spelled (.members ((name, v) :: ms)) (key ++ ':' :: (cs ++ ',' :: cs'))

/-- Whether a text spells a value. -/
def Json.Spelled (v : Json) (cs : List Char) : Prop := (Phrase.value v).Spelled cs

/-! ## Scanning characters -/

namespace Quoted

theorem value?_of_isHexDigit {n : Nat} {c : Char} (h : IsHexDigit n c) :
    Digit.value? c = some n := by
  have all : ∀ n < 16, Digit.value? n.digitChar = some n ∧
      Digit.value? n.digitChar.toUpper = some n := by decide
  obtain ⟨small, rfl | rfl⟩ := h
  · exact (all n small).1
  · exact (all n small).2

/-- A unit is scanned from its escape. -/
theorem scan_unit {n : Nat} {cs : List Char} (h : SpellsUnit n cs) (rest : List Symbol) :
    scan ((('\\' :: 'u' :: cs).map .char) ++ rest) =
      ((scan rest).1.cons (.unit n), (scan rest).2) := by
  obtain ⟨third, second, first, last⟩ := h
  simp [scan, unit?, value?_of_isHexDigit third, value?_of_isHexDigit second,
    value?_of_isHexDigit first, value?_of_isHexDigit last]

theorem shortEscape?_of_mem {c letter : Char} (known : (letter, c) ∈ shortEscapes) :
    letter ≠ 'u' ∧ shortEscape? letter = some c := by
  simp only [shortEscapes, List.mem_cons, Prod.mk.injEq, List.not_mem_nil, or_false] at known
  obtain ⟨rfl, rfl⟩ | ⟨rfl, rfl⟩ | ⟨rfl, rfl⟩ | ⟨rfl, rfl⟩ | ⟨rfl, rfl⟩ | ⟨rfl, rfl⟩ | ⟨rfl, rfl⟩ |
    ⟨rfl, rfl⟩ := known <;> decide

/-- The pieces of a character, whatever stands after it. -/
theorem exists_scan_of_spellsChar {c : Char} {cs : List Char} (h : SpellsChar c cs) :
    ∃ ps, (∀ rest, scan (cs.map .char ++ rest) =
        (⟨ps ++ (scan rest).1.pieces, (scan rest).1.ending⟩, (scan rest).2)) ∧
      ∀ more, decode .closed (ps ++ more) = (some c :: ·) <$> decode .closed more := by
  cases h with
  | itself printable unquoted unescaped =>
    refine ⟨[.char c], fun rest => ?_, fun more => rfl⟩
    simp [scan, unescaped, unquoted, Nat.not_lt.mpr printable, cons]
  | short known =>
    obtain ⟨no_unit, short⟩ := shortEscape?_of_mem known
    refine ⟨[.char c], fun rest => ?_, fun more => rfl⟩
    simp [scan, no_unit, short, cons]
  | unit digits =>
    -- A character is no surrogate, so its unit stands alone.
    have scalar : c.toNat < 0xD800 ∨ 0xDFFF < c.toNat := c.valid.imp_right And.left
    have trailing : isTrailing c.toNat = false := by simp [isTrailing]; omega
    have leading : isLeading c.toNat = false := by simp [isLeading]; omega
    refine ⟨[.unit c.toNat], fun rest => scan_unit digits rest, fun more => ?_⟩
    rw [List.singleton_append, decode.eq_def]
    simp [trailing, leading]
  | @pair high low cs cs' leading trailing point first second =>
    refine ⟨[.unit high, .unit low], fun rest => ?_, fun more => ?_⟩
    · have after := scan_unit second rest
      have before := scan_unit first (('\\' :: 'u' :: cs').map .char ++ rest)
      rw [after] at before
      simpa [cons] using before
    · have high_leads : isLeading high = true := by simp [isLeading]; omega
      have not_trailing : isTrailing high = false := by simp [isTrailing]; omega
      have low_trails : isTrailing low = true := by simp [isTrailing]; omega
      have same : pairChar high low = c := by
        rw [pairChar, ← point, Char.ofNat_toNat]
      simp [decode, high_leads, not_trailing, low_trails, same]

theorem exists_scan_of_spellsChars {s cs : List Char} (h : SpellsChars s cs) :
    ∃ ps, (∀ rest, scan (cs.map .char ++ .char '"' :: rest) = (⟨ps, .closed⟩, rest)) ∧
      decode .closed ps = .ok (s.map some) := by
  induction h with
  | nil => exact ⟨[], fun rest => by simp [scan], rfl⟩
  | cons first _ ih =>
    obtain ⟨ps, scanned, decoded⟩ := exists_scan_of_spellsChar first
    obtain ⟨more, scanned', decoded'⟩ := ih
    refine ⟨ps ++ more, fun rest => ?_, ?_⟩
    · rw [List.map_append, List.append_assoc, scanned, scanned']
    · rw [decoded, decoded']
      rfl

end Quoted

/-! ## Tokens -/

namespace JsonToken

theorem tokens_blank {c : Char} (blank : isBlank (.char c)) (rest : List Symbol) :
    tokens (.char c :: rest) = tokens rest := by
  have skipped : next? (.char c :: rest) = next? rest := by rw [next?, if_pos blank]
  cases first : next? rest with
  | none => rw [tokens_of_next?_eq_none first, tokens_of_next?_eq_none (skipped.trans first)]
  | some r => rw [tokens_of_next? first, tokens_of_next? (skipped.trans first)]

/-- Blanks are no tokens. -/
theorem tokens_blanks {cs : List Char} (blanks : Blanks cs) (rest : List Symbol) :
    tokens (cs.map .char ++ rest) = tokens rest := by
  induction cs with
  | nil => rfl
  | cons c cs ih =>
    obtain ⟨first, others⟩ := List.forall_mem_cons.mp blanks
    have blank : isBlank (.char c) := by
      simp only [List.mem_cons, List.not_mem_nil, or_false] at first
      rcases first with rfl | rfl | rfl | rfl <;> rfl
    rw [List.map_cons, List.cons_append, tokens_blank blank, ih others]

/-- A text in quotes is one token, from which the text is read. -/
theorem exists_tokens_of_spellsText {s : String} {cs : List Char} (h : SpellsText s cs) :
    ∃ q : Quoted, q.read = .ok s ∧ q.ending = .closed ∧
      ∀ rest, tokens (cs.map .char ++ rest) = .text q :: tokens rest := by
  obtain ⟨inner⟩ := h
  obtain ⟨ps, scanned, decoded⟩ := Quoted.exists_scan_of_spellsChars inner
  refine ⟨⟨ps, .closed⟩, ?_, rfl, fun rest => ?_⟩
  · exact Quoted.read_of_decode decoded
  · simp only [List.map_cons, List.map_append, List.map_nil, List.cons_append, List.append_assoc,
      List.nil_append]
    rw [tokens_char (by decide)]
    simp [startingWith, punctuation?, value, scanned]

theorem exists_tokens_of_spellsKey {name : String} {cs : List Char} (h : SpellsKey name cs) :
    ∃ q : Quoted, q.read = .ok name ∧ q.ending = .closed ∧
      ∀ rest, tokens (cs.map .char ++ .char ':' :: rest) = .text q :: .colon :: tokens rest := by
  obtain ⟨left, text, right⟩ := h
  obtain ⟨q, read, closed, named⟩ := exists_tokens_of_spellsText text
  refine ⟨q, read, closed, fun rest => ?_⟩
  rw [List.map_append, List.append_assoc, tokens_blanks left, List.map_append, List.append_assoc,
    named, tokens_blanks right, tokens_punctuation rest rfl]

theorem tokens_spelledMinusZero {rest : List Symbol} (ends : Numeral.EndsBefore rest) :
    tokens (['-', '0'].map .char ++ rest) = .number .minusZero :: tokens rest := by
  have itself : Numeral.ofText (String.ofList ['-', '0']) = .minusZero := by decide
  have number : JsonGrammar.Number ['-', '0'] := .negative (JsonGrammar.magnitude_toDigits 0)
  rw [tokens_of_number number ends, itself]

end JsonToken

/-! ## Drafts -/

namespace Draft

open JsonReader

/-- Whether a draft is read as a value is, wherever it stands. -/
def ReadsAs (d : Draft) (v : Json) : Prop := ∀ room, any room d = any room (ofJson v)

theorem ReadsAs.array {ds : List Draft} {vs : List Json}
    (items : ∀ room index, anyItems room index ds = anyItems room index (ofItems vs)) :
    ReadsAs (.array ds .closed) (.array vs) := by
  intro room
  simp only [any, ofJson, items]
  rfl

theorem ReadsAs.object {ds : List (Quoted × Draft)} {ms : List (String × Json)}
    (members : ∀ room, anyMembers room ds = anyMembers room (ofMembers ms)) :
    ReadsAs (.object ds .closed) (.object ms) := by
  intro room
  simp only [any, ofJson, members]

theorem ReadsAs.items {d : Draft} {v : Json} {ds : List Draft} {vs : List Json}
    (first : d.ReadsAs v)
    (others : ∀ room index, anyItems room index ds = anyItems room index (ofItems vs))
    (room index : Nat) :
    anyItems room index (d :: ds) = anyItems room index (ofItems (v :: vs)) := by
  simp only [anyItems, ofItems, first room, others]

theorem ReadsAs.members {q : Quoted} {name : String} {d : Draft} {v : Json}
    {ds : List (Quoted × Draft)} {ms : List (String × Json)} (named : q.read = .ok name)
    (first : d.ReadsAs v)
    (others : ∀ room, anyMembers room ds = anyMembers room (ofMembers ms)) (room : Nat) :
    anyMembers room ((q, d) :: ds) = anyMembers room (ofMembers ((name, v) :: ms)) := by
  simp only [anyMembers, ofMembers, key, named, Quoted.read_ofText, first room, others]

end Draft

/-- Whether a text forms a draft, whatever stands around it. -/
def Draft.FormedBy (d : Draft) (cs : List Char) : Prop :=
  ∀ rest, Numeral.EndsBefore rest → Draft.Begins (cs.map .char ++ rest) d rest

theorem Draft.FormedBy.build {d : Draft} {cs : List Char} (h : d.FormedBy cs) :
    Draft.build (JsonToken.tokens (cs.map .char)) = (d, []) := by
  have whole := h [] Numeral.endsBefore_nil
  rw [List.append_nil] at whole
  exact whole.build

/-- Whether a part of a text forms a draft of what it spells, whatever stands around it. -/
def Phrase.Formed : Phrase → List Char → Prop
  | .value v, cs => ∃ d : Draft, d.ReadsAs v ∧ d.FormedBy cs
  | .items vs, cs => ∃ ds, (∀ room index, JsonReader.anyItems room index ds =
      JsonReader.anyItems room index (Draft.ofItems vs)) ∧
    ∀ rest frames stage before,
      (∀ t, t ≠ .closeList →
        Draft.step frames stage t = Draft.stepValue (.list before :: frames) t) →
      Draft.buildFrom frames stage (JsonToken.tokens (cs.map .char ++ .char ']' :: rest)) =
        Draft.resume (JsonToken.tokens rest)
          (Draft.supply (.array (before.reverse ++ ds) .closed) frames)
  | .members ms, cs => ∃ ds, (∀ room, JsonReader.anyMembers room ds =
      JsonReader.anyMembers room (Draft.ofMembers ms)) ∧
    ∀ rest frames stage before,
      (∀ t, t ≠ .closeObject → Draft.step frames stage t = Draft.stepKey frames before t) →
      Draft.buildFrom frames stage (JsonToken.tokens (cs.map .char ++ .char '\x7d' :: rest)) =
        Draft.resume (JsonToken.tokens rest)
          (Draft.supply (.object (before.reverse ++ ds) .closed) frames)

theorem Numeral.EndsBefore.blanks {cs : List Char} (blanks : Blanks cs) {rest : List Symbol}
    (ends : Numeral.EndsBefore rest) : Numeral.EndsBefore (cs.map .char ++ rest) := by
  cases cs with
  | nil => exact ends
  | cons c cs =>
    have first := blanks c List.mem_cons_self
    apply Numeral.endsBefore_cons
    simp only [List.mem_cons, List.not_mem_nil, or_false] at first
    rcases first with rfl | rfl | rfl | rfl <;> decide

namespace Phrase.Spelled

open Draft JsonToken

/-- Each part of a text forms a draft of what it spells. -/
theorem formed {p : Phrase} {cs : List Char} (h : p.Spelled cs) : p.Formed cs := by
  induction h with
  | null => exact ⟨.null, fun _ => rfl, fun rest _ => .of_token (tokens_null rest) fun _ => rfl⟩
  | true =>
    exact ⟨.bool .true, fun _ => rfl, fun rest _ => .of_token (tokens_bool .true rest) fun _ => rfl⟩
  | false =>
    exact ⟨.bool .false, fun _ => rfl,
      fun rest _ => .of_token (tokens_bool .false rest) fun _ => rfl⟩
  | @int n _ _ =>
    refine ⟨.number (.ofInt n), fun room => ?_, fun rest ends =>
      .of_token (tokens_int n ends) fun _ => rfl⟩
    rw [Json.int, ofJson, Numeral.ofText_int]
  | minusZero =>
    refine ⟨.number .minusZero, fun room => ?_, fun rest ends =>
      .of_token (tokens_spelledMinusZero ends) fun _ => rfl⟩
    rw [JsonReader.any_number JsonNumber.readsBack_minusZero, JsonReader.any,
      Numeral.value_minusZero]
    rfl
  | text quoted =>
    obtain ⟨q, read, closed, token⟩ := exists_tokens_of_spellsText quoted
    refine ⟨.text q, fun room => ?_, fun rest _ => .of_token (token rest) fun _ =>
      stepValue_text closed⟩
    rw [ofJson, JsonReader.any, JsonReader.any, read, Quoted.read_ofText]
  | padded left _ right ih =>
    obtain ⟨d, reads, begins⟩ := ih
    refine ⟨d, reads, fun rest ends => ?_⟩
    obtain ⟨t, ts, tokens, no_close, ends⟩ := begins _ (ends.blanks right)
    rw [tokens_blanks right] at ends
    refine ⟨t, ts, ?_, no_close, ends⟩
    rw [List.map_append, List.append_assoc, tokens_blanks left, List.map_append, List.append_assoc,
      tokens]
  | emptyArray blanks =>
    refine ⟨.array [] .closed, fun _ => rfl, fun rest _ => .array fun frames => ?_⟩
    rw [tokens_blanks blanks, buildFrom_closeList]
  | array _ ih =>
    obtain ⟨ds, reads, built⟩ := ih
    refine ⟨.array ds .closed, .array reads, fun rest _ => .array fun frames => ?_⟩
    exact built rest frames .listOpened [] fun _ => step_listOpened
  | emptyObject blanks =>
    refine ⟨.object [] .closed, fun _ => rfl, fun rest _ => .object fun frames => ?_⟩
    rw [tokens_blanks blanks, buildFrom_closeObject]
  | object _ ih =>
    obtain ⟨ds, reads, built⟩ := ih
    refine ⟨.object ds .closed, .object reads, fun rest _ => .object fun frames => ?_⟩
    exact built rest frames .objectOpened [] fun _ => step_objectOpened
  | lastItem _ ih =>
    obtain ⟨d, reads, begins⟩ := ih
    refine ⟨[d], reads.items fun _ _ => rfl, fun rest frames stage before awaits => ?_⟩
    exact (begins _ (endsBefore_punctuation rest (by simp))).lastItem awaits
  | nextItem _ _ ih ih' =>
    obtain ⟨d, reads, begins⟩ := ih
    obtain ⟨ds, others, built⟩ := ih'
    refine ⟨d :: ds, reads.items others, fun rest frames stage before awaits => ?_⟩
    have first (after : List Symbol) :=
      begins _ (endsBefore_punctuation (c := ',') after (by simp))
    rw [List.map_append, List.append_assoc, List.map_cons, List.cons_append,
      (first _).nextItem awaits, built rest frames _ (d :: before) fun _ => step_itemComma]
    simp
  | lastMember named _ ih =>
    obtain ⟨d, reads, begins⟩ := ih
    obtain ⟨q, read, closed, tokens⟩ := exists_tokens_of_spellsKey named
    refine ⟨[(q, d)], reads.members read fun _ => rfl, fun rest frames stage before awaits => ?_⟩
    rw [List.map_append, List.append_assoc, List.map_cons, List.cons_append,
      buildFrom_key closed (tokens _) awaits]
    exact (begins _ (endsBefore_punctuation rest (by simp))).lastMember
  | nextMember named _ _ ih ih' =>
    obtain ⟨d, reads, begins⟩ := ih
    obtain ⟨ds, others, built⟩ := ih'
    obtain ⟨q, read, closed, tokens⟩ := exists_tokens_of_spellsKey named
    refine ⟨(q, d) :: ds, reads.members read others, fun rest frames stage before awaits => ?_⟩
    have first (after : List Symbol) :=
      begins _ (endsBefore_punctuation (c := ',') after (by simp))
    rw [List.map_append, List.append_assoc, List.map_cons, List.cons_append,
      buildFrom_key closed (tokens _) awaits, List.map_append, List.append_assoc, List.map_cons,
      List.cons_append, (first _).nextMember, built rest frames _ _ fun _ => step_memberComma]
    simp

end Phrase.Spelled

/-! ## Values that are spelled -/

/-- Whether all numbers in a part of a text are read back. -/
def Phrase.Faithful : Phrase → Prop
  | .value v => v.Faithful
  | .items vs => ∀ v ∈ vs, v.Faithful
  | .members ms => ∀ m ∈ ms, m.2.Faithful

/-- The numbers that can be spelled are read back. -/
theorem Phrase.Spelled.faithful {p : Phrase} {cs : List Char} (h : p.Spelled cs) :
    p.Faithful := by
  induction h with
  | null | true | false | text => trivial
  | int least greatest => exact JsonNumber.readsBack_int least greatest
  | minusZero => exact JsonNumber.readsBack_minusZero
  | padded _ _ _ ih => exact ih
  | emptyArray => exact Json.faithful_array.mpr (by simp)
  | array _ ih => exact Json.faithful_array.mpr ih
  | emptyObject => exact Json.faithful_object.mpr (by simp)
  | object _ ih => exact Json.faithful_object.mpr ih
  | lastItem _ ih | lastMember _ _ ih => simpa [Faithful] using ih
  | nextItem _ _ ih ih' | nextMember _ _ _ ih ih' => exact List.forall_mem_cons.mpr ⟨ih, ih'⟩

namespace Json.Spelled

open JsonReader

variable {v w : Json} {cs : List Char} (h : v.Spelled cs)

include h

theorem faithful : v.Faithful := Phrase.Spelled.faithful h

/-- A text forms a draft that is read as the value that it spells. -/
theorem exists_formed : ∃ d : Draft, d.ReadsAs v ∧ d.FormedBy cs := Phrase.Spelled.formed h

/-- What is read from a text is the normal form of the value that it spells, and it is read if the
value is not nested too deeply. -/
theorem any_run_iff :
    any.run (cs.map .char) = .ok w ↔ v.depth ≤ greatestDepth ∧ w = v.normal := by
  obtain ⟨d, reads, formed⟩ := exists_formed h
  have run : any.run (cs.map .char) = any greatestDepth (Draft.ofJson v) := by
    rw [JsonReader.run, formed.build, ← reads]
    simp only [List.isEmpty_nil, if_true]
    cases any greatestDepth d <;> rfl
  rw [run, any_ofJson_eq_ok_iff (faithful h)]

end Json.Spelled

end GraphIngest
