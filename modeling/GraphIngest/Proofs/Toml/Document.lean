import GraphIngest.Proofs.Toml.Quoted
import GraphIngest.Toml.Reader

/-!
# Documents are read back

A document of names and values without parts, each on a line of its own, is read back as a table of
these names and values.

## Main definitions

* `Toml.Spells`: a text spells a value, whatever stands on the lines after it.
* `Toml.spells_toDigits`, `Toml.spells_quoteChars`: what is written for numbers and texts.
* `Toml.Line`: a name and a value, as they are written on a line.
* `Toml.read?_lines`: a document of lines is read back.
-/

namespace GraphIngest

namespace Toml

variable {ds rest : List Char}

/-- A text spells a value: it begins like one without parts, and the value is read from it up to the
end of the line. -/
structure Spells (text : List Char) (value : TomlScalar) : Prop where
  begins : ∃ c, text.head? = some c ∧ (c.isDigit ∨ c = '"' ∨ c = '\'')
  reads : ∀ rest, scalar (text ++ '\n' :: rest) = some (value, '\n' :: rest)

/-! ## Numbers -/

/-- A number of some width takes as many of the digits of a line. -/
theorem field_digits {width least greatest : Nat} {r : Nat × List Char}
    (read : field width least greatest (ds ++ '\n' :: rest) = some r) :
    r.2 = ds.drop width ++ '\n' :: rest := by
  simp only [field, Option.ite_none_right_eq_some, Option.some.injEq, List.all_eq_true] at read
  obtain ⟨⟨long, all, -⟩, rfl⟩ := read
  -- The end of the line is no digit, so the width ends before it.
  have inside : width ≤ ds.length := by
    refine Nat.not_lt.mp fun longer => ?_
    obtain ⟨more, same⟩ := Nat.exists_eq_add_of_lt longer
    have among : '\n' ∈ (ds ++ '\n' :: rest).take width := by
      rw [same, Nat.add_assoc, List.take_length_add_append, List.take_succ_cons]
      simp
    exact absurd (all _ among) (by decide)
  exact List.drop_append_of_le_length inside

section Digits

variable (numeric : ∀ c ∈ ds, c.isDigit)
include numeric

/-- What comes after some digits of a line is a digit or the end of the line. -/
theorem head?_digits {c : Char} (first : (ds ++ '\n' :: rest).head? = some c) :
    c.isDigit ∨ c = '\n' := by
  cases ds with
  | nil => exact .inr (Option.some.inj first).symm
  | cons d ds =>
    obtain rfl := Option.some.inj first
    exact .inl (numeric _ List.mem_cons_self)

theorem mark_digits {m : Char} (other : m.isDigit = false) (inside : m ≠ '\n') :
    mark m (ds ++ '\n' :: rest) = none := by
  cases text : ds ++ '\n' :: rest with
  | nil => rfl
  | cons c tail =>
    have first : (ds ++ '\n' :: rest).head? = some c := by rw [text, List.head?_cons]
    have differ : m ≠ c := by
      rintro rfl
      rcases head?_digits numeric first with digit | newline
      · simp [digit] at other
      · exact inside newline
    rw [mark, if_neg differ]

theorem mark_after_field {width least greatest : Nat} {r : Nat × List Char} {m : Char}
    (other : m.isDigit = false) (inside : m ≠ '\n')
    (read : field width least greatest (ds ++ '\n' :: rest) = some r) : mark m r.2 = none := by
  rw [field_digits read]
  exact mark_digits (fun c among => numeric c (List.mem_of_mem_drop among)) other inside

/-- Digits are no date, since nothing else stands among them. -/
theorem date_digits : date (ds ++ '\n' :: rest) = none := by
  have noDay : day (ds ++ '\n' :: rest) = none := by
    unfold day
    cases year : field 4 0 9999 (ds ++ '\n' :: rest) with
    | none => rfl
    | some r =>
      have dash := mark_after_field numeric (m := '-') rfl (by decide) year
      simp [dash]
  have noTime : time (ds ++ '\n' :: rest) = none := by
    unfold time
    cases hour : field 2 0 23 (ds ++ '\n' :: rest) with
    | none => rfl
    | some r =>
      have colon := mark_after_field numeric (m := ':') rfl (by decide) hour
      simp [colon]
  simp [date, noDay, noTime]

theorem digitsAfter_digits :
    digitsAfter Char.isDigit (ds ++ '\n' :: rest) = (ds, '\n' :: rest) := by
  induction ds with
  | nil => rfl
  | cons d ds ih =>
    rw [List.forall_mem_cons] at numeric
    have other : d ≠ '_' := by
      rintro rfl
      exact absurd numeric.1 (by decide)
    rw [List.cons_append, digitsAfter.eq_2 _ _ _ (fun _ _ same _ => other same), if_pos numeric.1,
      ih numeric.2]

end Digits

/-- A word does not stand where a digit does. -/
theorem word_digit {w : String} {c : Char} (digit : c.isDigit)
    (letter : ∃ d, w.toList.head? = some d ∧ d.isDigit = false) : word w (c :: rest) = none := by
  obtain ⟨d, first, other⟩ := letter
  cases chars : w.toList with
  | nil => simp [chars] at first
  | cons e ds =>
    obtain rfl : e = d := by simpa [chars] using first
    have differ : e ≠ c := by
      rintro rfl
      simp [digit] at other
    simp [word, chars, List.isPrefixOf, differ]

/-- The digits of a number are read from a line. -/
theorem decimal_toDigits (n : Nat) (rest : List Char) :
    decimal (Nat.toDigits 10 n ++ '\n' :: rest) = some (Nat.toDigits 10 n, '\n' :: rest) := by
  have numeric : ∀ c ∈ Nat.toDigits 10 n, c.isDigit := fun _ => Digit.isDigit_of_mem_toDigits
  obtain ⟨c, ds, written⟩ := List.exists_cons_of_ne_nil (Nat.toDigits_ne_nil (b := 10) (n := n))
  rw [written, List.forall_mem_cons] at numeric
  by_cases zero : c = '0'
  · subst zero
    cases ds with
    | nil =>
      rw [written]
      rfl
    | cons d ds => exact absurd written Digit.toDigits_ne_zero_cons
  · rw [written, List.cons_append, decimal.eq_2 _ fun _ same => zero (List.cons.inj same).1, digits,
      if_pos numeric.1, digitsAfter_digits numeric.2]

theorem signedNumber_toDigits {n : Nat} (small : n ≤ greatestInt) (rest : List Char) :
    signedNumber false (Nat.toDigits 10 n ++ '\n' :: rest) = some (.int n, '\n' :: rest) := by
  have noFraction : fraction? ('\n' :: rest) = none := rfl
  have noExponent : exponent? ('\n' :: rest) = none := rfl
  simp [signedNumber, decimal_toDigits, noFraction, noExponent, Digit.natOf_toDigits, small]

/-- A number that begins with a digit has no sign, and is in no other base if a digit or the end of
the line comes next. -/
theorem number_digit {c : Char} {cs : List Char} (digit : c.isDigit)
    (second : ∀ d, cs.head? = some d → d.isDigit ∨ d = '\n') :
    number (c :: cs) = signedNumber false (c :: cs) := by
  have unsigned : DecimalText.sign (c :: cs) = (false, c :: cs) := by
    unfold DecimalText.sign
    split
    · rename_i same
      rw [(List.cons.inj same).1] at digit
      exact absurd digit (by decide)
    · rename_i same
      rw [(List.cons.inj same).1] at digit
      exact absurd digit (by decide)
    · rfl
  unfold number
  split
  · rename_i same
    exact absurd (second 'x' (by rw [(List.cons.inj same).2]; rfl)) (by decide)
  · rename_i same
    exact absurd (second 'o' (by rw [(List.cons.inj same).2]; rfl)) (by decide)
  · rename_i same
    exact absurd (second 'b' (by rw [(List.cons.inj same).2]; rfl)) (by decide)
  · have noInfinity : word "inf" (c :: cs) = none := word_digit digit ⟨'i', rfl, rfl⟩
    have noNan : word "nan" (c :: cs) = none := word_digit digit ⟨'n', rfl, rfl⟩
    simp only [unsigned, noInfinity, noNan]

/-- The numbers of a document are spelled by their digits. -/
theorem spells_toDigits {n : Nat} (small : n ≤ greatestInt) :
    Spells (Nat.toDigits 10 n) (.int n) := by
  have numeric : ∀ c ∈ Nat.toDigits 10 n, c.isDigit := fun _ => Digit.isDigit_of_mem_toDigits
  obtain ⟨c, ds, written⟩ := List.exists_cons_of_ne_nil (Nat.toDigits_ne_nil (b := 10) (n := n))
  have first : c.isDigit := numeric c (by simp [written])
  refine ⟨⟨c, by rw [written]; rfl, .inl first⟩, fun rest => ?_⟩
  have noDate : date (Nat.toDigits 10 n ++ '\n' :: rest) = none := date_digits numeric
  have whole : number (Nat.toDigits 10 n ++ '\n' :: rest) = some (.int n, '\n' :: rest) := by
    rw [← signedNumber_toDigits small rest, written, List.cons_append]
    rw [written, List.forall_mem_cons] at numeric
    exact number_digit first fun _ => head?_digits numeric.2
  have unquoted : ¬(c = '"' ∨ c = '\'') := by
    rintro (rfl | rfl) <;> exact absurd first (by decide)
  have noTruth : ¬(c = 't' ∨ c = 'f') := by
    rintro (rfl | rfl) <;> exact absurd first (by decide)
  rw [written, List.cons_append] at noDate whole ⊢
  simp only [scalar, if_neg unquoted, if_neg noTruth, noDate, whole]

/-! ## Texts -/

/-- The texts of a document are spelled by their quotes. -/
theorem spells_quoteChars (cs : List Char) : Spells (quoteChars cs) (.text (String.ofList cs)) := by
  have begins : ∃ c, (quoteChars cs).head? = some c ∧ (c = '"' ∨ c = '\'') := by
    unfold quoteChars
    split
    · exact ⟨'"', rfl, .inl rfl⟩
    · exact ⟨'\'', rfl, .inr rfl⟩
    · exact ⟨'"', rfl, .inl rfl⟩
    · exact ⟨'\'', rfl, .inr rfl⟩
  obtain ⟨c, first, quote⟩ := begins
  refine ⟨⟨c, first, .inr quote⟩, fun rest => ?_⟩
  have read := text_quoteChars cs rest
  obtain ⟨body, written⟩ := List.head?_eq_some_iff.mp first
  rw [written, List.cons_append] at read ⊢
  simp only [scalar, if_pos quote, read, Option.map_some]

/-! ## Lines -/

/-- A name that stands without quotes. -/
abbrev Bare (name : String) : Prop := name ≠ "" ∧ name.toList.all isKeyChar

/-- A name and a value, as they stand on a line. -/
structure Line where
  name : String
  text : List Char
  value : TomlScalar
  bare : Bare name
  spelled : Spells text value

namespace Line

/-- The line with its end. -/
def chars (l : Line) : List Char := l.name.toList ++ ' ' :: '=' :: ' ' :: (l.text ++ ['\n'])

/-- What the line says. -/
def statement (l : Line) : TomlStatement := .define [] l.name (.scalar l.value)

/-- The entry that comes of it. -/
def entry (l : Line) : String × TomlItem := (l.name, .scalar l.value)

/-- The line of a number. -/
def ofNat {n : Nat} (small : n ≤ greatestInt) (name : String) (bare : Bare name) : Line :=
  ⟨name, Nat.toDigits 10 n, .int n, bare, spells_toDigits small⟩

/-- The line of a text. -/
def ofText (s name : String) (bare : Bare name) : Line :=
  ⟨name, quoteChars s.toList, .text s, bare, by simpa using spells_quoteChars s.toList⟩

/-- A line begins with the first character of its name. -/
theorem chars_append (l : Line) (rest : List Char) :
    ∃ c cs, isKeyChar c ∧ l.chars ++ rest = c :: cs := by
  obtain ⟨filled, all⟩ := l.bare
  cases chars : l.name.toList with
  | nil => exact absurd (String.toList_eq_nil_iff.mp chars) filled
  | cons c cs =>
    have inside : isKeyChar c := List.all_eq_true.mp all c (by simp [chars])
    exact ⟨c, _, inside, by rw [Line.chars, chars]; rfl⟩

end Line

/-- Characters of names are told from others. -/
theorem ne_of_isKeyChar {c d : Char} (inside : isKeyChar c) (outside : isKeyChar d = false) :
    c ≠ d := by
  rintro rfl
  simp [inside] at outside

theorem skipBlank_keyChar {c : Char} {cs : List Char} (inside : isKeyChar c) :
    skipBlank (c :: cs) = c :: cs := by
  have space := ne_of_isKeyChar inside (d := ' ') (by decide)
  have tab := ne_of_isKeyChar inside (d := '\t') (by decide)
  simp [skipBlank, isBlank, space, tab]

theorem skipLines_keyChar {c : Char} {cs : List Char} (inside : isKeyChar c) :
    skipLines (c :: cs) = c :: cs := by
  have noComment : skipComment (c :: cs) = c :: cs := by
    unfold skipComment
    split
    · rename_i same
      exact absurd (List.cons.inj same).1 (ne_of_isKeyChar inside (by decide))
    · rfl
  have noEnd : newline? (c :: cs) = none :=
    newline?_of_head? (by simpa using ne_of_isKeyChar inside (by decide))
      (by simpa using ne_of_isKeyChar inside (by decide))
  rw [skipLines, skipBlank_keyChar inside, noComment]
  simp only [noEnd]

/-- A name without quotes is read up to the blank after it. -/
theorem key_bare {name : List Char} (filled : name ≠ []) (all : ∀ c ∈ name, isKeyChar c)
    (rest : List Char) : key (name ++ ' ' :: rest) = some (String.ofList name, ' ' :: rest) := by
  have taken : (name ++ ' ' :: rest).takeWhile isKeyChar = name := by
    rw [List.takeWhile_append_of_pos all, List.takeWhile_cons_of_neg (by decide), List.append_nil]
  have left : (name ++ ' ' :: rest).dropWhile isKeyChar = ' ' :: rest := by
    rw [List.dropWhile_append_of_pos all, List.dropWhile_cons_of_neg (by decide)]
  have first (d : Char) (outside : isKeyChar d = false) (cs : List Char) :
      name ++ ' ' :: rest ≠ d :: cs := by
    obtain ⟨c, tail, rfl⟩ := List.exists_cons_of_ne_nil filled
    exact fun same => ne_of_isKeyChar (all c List.mem_cons_self) outside (List.cons.inj same).1
  unfold key
  split
  · exact absurd ‹_› (first '"' (by decide) _)
  · exact absurd ‹_› (first '\'' (by decide) _)
  · rw [taken, left, if_neg (by simpa using filled)]

/-- First characters of values without parts are told from others. -/
theorem ne_of_begins {c d : Char} (inside : c.isDigit ∨ c = '"' ∨ c = '\'')
    (outside : ¬(d.isDigit ∨ d = '"' ∨ d = '\'')) : c ≠ d :=
  fun same => outside (same ▸ inside)

/-- A value without parts is read as what the text spells. -/
theorem value_of_spells {text : List Char} {v : TomlScalar} (spelled : Spells text v) (room : Nat)
    (rest : List Char) :
    value (room + 1) (text ++ '\n' :: rest) = some (.scalar v, '\n' :: rest) := by
  obtain ⟨c, first, start⟩ := spelled.begins
  have noArray : c ≠ '[' := ne_of_begins start (by decide)
  have noTable : c ≠ '\x7b' := ne_of_begins start (by decide)
  have read := spelled.reads rest
  obtain ⟨body, written⟩ := List.head?_eq_some_iff.mp first
  rw [written, List.cons_append] at read ⊢
  simp only [value, if_neg noArray, if_neg noTable, read, Option.map_some]

/-! ## Documents of lines -/

/-- A name and a value are read from their line, up to its end. -/
theorem definition_line (l : Line) (room : Nat) (rest : List Char) :
    definition (value (room + 1)) (l.chars ++ rest) =
      some (([], l.name, .scalar l.value), '\n' :: rest) := by
  obtain ⟨c, cs, inside, begins⟩ := l.chars_append rest
  have noBlank : skipBlank (l.chars ++ rest) = l.chars ++ rest := by
    rw [begins, skipBlank_keyChar inside]
  have name : key (l.chars ++ rest) =
      some (l.name, ' ' :: '=' :: ' ' :: (l.text ++ '\n' :: rest)) := by
    have filled : l.name.toList ≠ [] := fun empty => l.bare.1 (String.toList_eq_nil_iff.mp empty)
    have all := List.all_eq_true.mp l.bare.2
    simpa [Line.chars] using key_bare filled all ('=' :: ' ' :: (l.text ++ '\n' :: rest))
  have path : keyPath (l.chars ++ rest) =
      some (([], l.name), '=' :: ' ' :: (l.text ++ '\n' :: rest)) := by
    have alone : keys (78 + 1) (l.chars ++ rest) =
        some ([l.name], '=' :: ' ' :: (l.text ++ '\n' :: rest)) := by
      rw [keys, noBlank, name]
      rfl
    rw [keyPath, greatestDepth, alone]
    rfl
  have noBlank : skipBlank (l.text ++ '\n' :: rest) = l.text ++ '\n' :: rest := by
    obtain ⟨c, first, start⟩ := l.spelled.begins
    obtain ⟨body, written⟩ := List.head?_eq_some_iff.mp first
    have space : c ≠ ' ' := ne_of_begins start (by decide)
    have tab : c ≠ '\t' := ne_of_begins start (by decide)
    simp [written, skipBlank, isBlank, space, tab]
  have after : skipBlank (' ' :: (l.text ++ '\n' :: rest)) = l.text ++ '\n' :: rest := noBlank
  have equals : mark '=' (skipBlank ('=' :: ' ' :: (l.text ++ '\n' :: rest))) =
      some (' ' :: (l.text ++ '\n' :: rest)) := rfl
  simp [definition, path, equals, after, value_of_spells l.spelled]

/-- A line is the first statement of what begins with it. -/
theorem statements_line (l : Line) (rest : List Char) :
    statements (l.chars ++ rest) = (statements rest).map (l.statement :: ·) := by
  obtain ⟨c, cs, inside, begins⟩ := l.chars_append rest
  have noHeader : ¬(l.chars ++ rest).head? = some '[' := by
    simpa [begins] using ne_of_isKeyChar inside (by decide)
  have first : statement (l.chars ++ rest) = some (l.statement, '\n' :: rest) := by
    rw [statement, if_neg noHeader, greatestDepth, definition_line l 78 rest]
    rfl
  have shorter : rest.length < (l.chars ++ rest).length := by
    simp [Line.chars]
    omega
  have ends : lineEnd ('\n' :: rest) = some rest := rfl
  rw [begins] at first shorter ⊢
  rw [statements, skipLines_keyChar inside]
  simp only [first, Option.bind_eq_bind, Option.bind_some, ends, if_pos shorter, Option.pure_def]
  cases statements rest <;> rfl

theorem statements_lines (ls : List Line) :
    statements (ls.flatMap Line.chars) = some (ls.map Line.statement) := by
  induction ls with
  | nil =>
    rw [List.flatMap_nil, statements, skipLines]
    rfl
  | cons l ls ih =>
    rw [List.flatMap_cons, statements_line, ih]
    rfl

/-- A new name of the table without a header is put at its end. -/
theorem step?_statement {l : Line} {es : TomlEntries} (new : l.name ∉ es.map (·.1)) :
    TomlState.step? ⟨[], none, false, es⟩ l.statement =
      some ⟨[], none, false, es ++ [l.entry]⟩ := by
  have absent : es.lookup l.name = none := by
    rw [List.lookup_eq_none_iff]
    intro e among
    simpa using fun same : l.name = e.1 => new (List.mem_map.mpr ⟨e, among, same.symm⟩)
  simp [TomlState.step?, Line.statement, Line.entry, TomlEntries.define?, TomlEntries.modify?,
    absent]

theorem foldlM_statements (ls : List Line) (es : TomlEntries)
    (distinct : (es.map (·.1) ++ ls.map Line.name).Nodup) :
    (ls.map Line.statement).foldlM TomlState.step? ⟨[], none, false, es⟩ =
      some ⟨[], none, false, es ++ ls.map Line.entry⟩ := by
  induction ls generalizing es with
  | nil => simp
  | cons l ls ih =>
    have new : l.name ∉ es.map (·.1) := by
      intro among
      exact (List.nodup_append.mp distinct).2.2 _ among _ List.mem_cons_self rfl
    have next : ((es ++ [l.entry]).map (·.1) ++ ls.map Line.name).Nodup := by
      simpa [Line.entry] using distinct
    rw [List.map_cons, List.foldlM_cons, step?_statement new, Option.bind_eq_bind, Option.bind_some,
      ih _ next, List.append_assoc]
    rfl

/-- A document of lines is read back, if no name is on two of them. -/
theorem read?_lines {ls : List Line} (distinct : (ls.map Line.name).Nodup) :
    read? (String.ofList (ls.flatMap Line.chars)) = some (ls.map Line.entry) := by
  have noMark : skipOrderMark (ls.flatMap Line.chars) = ls.flatMap Line.chars := by
    cases ls with
    | nil => rfl
    | cons l ls =>
      obtain ⟨c, cs, inside, begins⟩ := l.chars_append (ls.flatMap Line.chars)
      rw [List.flatMap_cons, begins]
      unfold skipOrderMark
      split
      · rename_i same
        exact absurd (List.cons.inj same).1 (ne_of_isKeyChar inside (by decide))
      · rfl
  have table := foldlM_statements ls [] (by simpa using distinct)
  rw [read?, String.toList_ofList, noMark, statements_lines]
  simp only [Option.bind_eq_bind, Option.bind_some]
  rw [TomlEntries.ofStatements?, TomlState.start, table]
  rfl

end Toml

end GraphIngest
