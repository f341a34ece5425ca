import GraphIngest.Toml.Text
import GraphIngest.Toml.Writer

/-!
# Texts in quotes are read back

A text is written in one of four kinds of quotes, and read back from it. On several lines quotes may
stand in a text as they are, as long as there are never three of them in a row: those that come last
belong to the text, and the three after them close it.

## Main definitions

* `Toml.Few`: a text begins with so many quotes at most.
* `Toml.basicAfter_escapeFrom`, `Toml.literal_append`: texts on one line are read back.
* `Toml.linesAfter_escapeFrom`, `Toml.linesAfter_append`: texts on several lines are read back.
* `Toml.text_quoteChars`: every text is read back from its quotes.
-/

namespace GraphIngest

namespace Toml

variable {c : Char} {cs rest : List Char}

/-! ## Escapes -/

theorem natOf?_hex4 : ∀ n < 128, Digit.natOf? 16 (hex4 n) = some n := by decide

theorem codePoint?_hex4 (ascii : c.toNat < 128) (rest : List Char) :
    codePoint? 4 (hex4 c.toNat ++ rest) = some c := by
  have digits : (hex4 c.toNat ++ rest).take 4 = hex4 c.toNat := rfl
  have long : ¬(hex4 c.toNat ++ rest).length < 4 := by simp [hex4]
  have valid : c.toNat.isValidChar := c.valid
  rw [codePoint?, if_neg long, digits, natOf?_hex4 _ ascii]
  simp [valid]

/-- A character that is no quote stands for itself, or an escape stands for it. -/
theorem escapeChar_cases (lines : Bool) (other : c ≠ '"') :
    (escapeChar lines c = [c] ∧ c ≠ '\\' ∧ c ≠ '\r' ∧ (isPlain c ∨ (c = '\n' ∧ lines))) ∨
      ∃ code, escapeChar lines c = '\\' :: code ∧
        ∀ rest, escape? (code ++ rest) = some (c, code.length) := by
  have named {d : Char} (n : Nat) (same : c.toNat = n) (char : Char.ofNat n = d) : c = d := by
    rw [← char, ← same, Char.ofNat_toNat]
  unfold escapeChar
  split
  · rename_i code
    obtain rfl := named 8 code rfl
    exact .inr ⟨['b'], rfl, fun _ => rfl⟩
  split
  · rename_i tab
    subst tab
    exact .inr ⟨['t'], rfl, fun _ => rfl⟩
  split
  · rename_i newline
    subst newline
    cases lines with
    | true => exact .inl ⟨rfl, by decide, by decide, .inr ⟨rfl, rfl⟩⟩
    | false => exact .inr ⟨['n'], rfl, fun _ => rfl⟩
  split
  · rename_i code
    obtain rfl := named 12 code rfl
    exact .inr ⟨['f'], rfl, fun _ => rfl⟩
  split
  · rename_i carriage
    subst carriage
    exact .inr ⟨['r'], rfl, fun _ => rfl⟩
  split
  · rename_i backslash
    subst backslash
    exact .inr ⟨['\\'], rfl, fun _ => rfl⟩
  split
  · rename_i control
    have ascii : c.toNat < 128 := by omega
    refine .inr ⟨'u' :: hex4 c.toNat, rfl, fun rest => ?_⟩
    have read : escape? ('u' :: (hex4 c.toNat ++ rest)) =
        (codePoint? 4 (hex4 c.toNat ++ rest)).map (·, 5) := rfl
    rw [List.cons_append, read, codePoint?_hex4 ascii]
    rfl
  · rename_i tab newline _ carriage backslash visible
    refine .inl ⟨rfl, backslash, carriage, .inl ?_⟩
    simp only [isPlain, Bool.or_eq_true, decide_eq_true_eq, Bool.and_eq_true]
    omega

/-! ## Texts on one line -/

theorem basicAfter_skip (code rest : List Char) :
    basicAfter code.length (code ++ rest) = basicAfter 0 rest := by
  induction code with
  | nil => rfl
  | cons c code ih => exact ih

theorem basicAfter_escaped {code : List Char}
    (escaped : ∀ rest, escape? (code ++ rest) = some (c, code.length)) (rest : List Char) :
    basicAfter 0 ('\\' :: (code ++ rest)) = cons c (basicAfter 0 rest) := by
  rw [basicAfter, if_neg (by decide), if_pos rfl, escaped rest]
  exact congrArg (cons c) (basicAfter_skip code rest)

/-- A text with escapes is read back. -/
theorem basicAfter_escapeFrom (cs rest : List Char) :
    basicAfter 0 (escapeFrom false 0 cs ++ '"' :: rest) = some (cs, rest) := by
  induction cs with
  | nil => simp [escapeFrom, basicAfter]
  | cons c cs ih =>
    by_cases quote : c = '"'
    · subst quote
      have step : escapeFrom false 0 ('"' :: cs) = '\\' :: (['"'] ++ escapeFrom false 0 cs) := rfl
      rw [step, List.cons_append, List.append_assoc, basicAfter_escaped fun _ => rfl, ih]
      rfl
    · have step : escapeFrom false 0 (c :: cs) = escapeChar false c ++ escapeFrom false 0 cs := by
        rw [escapeFrom, if_neg quote]
      rw [step, List.append_assoc]
      rcases escapeChar_cases false quote with ⟨own, backslash, -, plain⟩ | ⟨code, escaped, read⟩
      · have plain : isPlain c := by simpa using plain
        rw [own, List.singleton_append, basicAfter, if_neg quote, if_neg backslash, if_pos plain,
          ih]
        rfl
      · rw [escaped, List.cons_append, basicAfter_escaped read, ih]
        rfl

/-- A text without escapes is read back. -/
theorem literal_append (plain : ∀ c ∈ cs, isPlain c) (absent : '\'' ∉ cs) (rest : List Char) :
    literal (cs ++ '\'' :: rest) = some (cs, rest) := by
  induction cs with
  | nil => simp [literal]
  | cons c cs ih =>
    rw [List.forall_mem_cons] at plain
    rw [List.mem_cons, not_or] at absent
    rw [List.cons_append, literal, if_neg (Ne.symm absent.1), if_pos plain.1,
      ih plain.2 absent.2]
    rfl

/-! ## Texts on several lines -/

/-- A text begins with so many quotes at most. -/
def Few (quote : Char) (most : Nat) (cs : List Char) : Prop :=
  ∃ n ≤ most, ∃ rest, cs = List.replicate n quote ++ rest ∧ rest.head? ≠ some quote

/-- Three quotes in a row. -/
abbrev closers (quote : Char) : List Char := [quote, quote, quote]

variable {quote : Char} {escapes : Bool}

theorem linesAfter_skip (code rest : List Char) :
    linesAfter quote escapes code.length (code ++ rest) = linesAfter quote escapes 0 rest := by
  induction code with
  | nil => rfl
  | cons c code ih => exact ih

theorem linesAfter_escaped {code : List Char} (other : quote ≠ '\\')
    (escaped : ∀ rest, escape? (code ++ rest) = some (c, code.length)) (rest : List Char) :
    linesAfter quote true 0 ('\\' :: (code ++ rest)) = cons c (linesAfter quote true 0 rest) := by
  rw [linesAfter, if_neg (Ne.symm other), if_pos ⟨rfl, rfl⟩, escaped rest]
  exact congrArg (cons c) (linesAfter_skip code rest)

theorem linesAfter_plain (other : c ≠ quote) (plain : c = '\\' → escapes = false)
    (carriage : c ≠ '\r') (own : c = '\n' ∨ isPlain c) (rest : List Char) :
    linesAfter quote escapes 0 (c :: rest) = cons c (linesAfter quote escapes 0 rest) := by
  have unescaped : ¬(c = '\\' ∧ escapes) := by
    rintro ⟨backslash, escapes⟩
    rw [plain backslash] at escapes
    cases escapes
  rw [linesAfter, if_neg other, if_neg unescaped, if_neg carriage, if_pos own]

theorem takeWhile_replicate (n : Nat) (ends : rest.head? ≠ some quote) :
    (List.replicate n quote ++ rest).takeWhile (· = quote) = List.replicate n quote := by
  have stop : rest.takeWhile (· = quote) = [] := by
    cases rest with
    | nil => rfl
    | cons c rest =>
      have other : c ≠ quote := fun same => ends (by simp [same])
      simp [other]
  rw [List.takeWhile_append_of_pos (by simp), stop, List.append_nil]

/-- What a quote leads to, by the number of quotes in a row that begin with it. -/
theorem linesAfter_run (n : Nat) (ends : rest.head? ≠ some quote) :
    linesAfter quote escapes 0 (List.replicate (n + 1) quote ++ rest) =
      if 3 ≤ min 5 (n + 1) then
        some (List.replicate (min 5 (n + 1) - 3) quote,
          (List.replicate n quote ++ rest).drop (min 5 (n + 1) - 1))
      else cons quote (linesAfter quote escapes 0 (List.replicate n quote ++ rest)) := by
  have run : closing quote (quote :: (List.replicate n quote ++ rest)) = min 5 (n + 1) := by
    have all := takeWhile_replicate (n + 1) ends
    rw [List.replicate_succ, List.cons_append] at all
    rw [closing, all, List.length_cons, List.length_replicate]
  rw [List.replicate_succ, List.cons_append, linesAfter, if_pos rfl, run]

/-- Up to two quotes before three of them belong to the text. -/
theorem linesAfter_replicate {n : Nat} (few : n ≤ 2) (ends : rest.head? ≠ some quote) :
    linesAfter quote escapes 0 (List.replicate n quote ++ (closers quote ++ rest)) =
      some (List.replicate n quote, rest) := by
  have all : List.replicate n quote ++ (closers quote ++ rest) =
      List.replicate (n + 2 + 1) quote ++ rest := by
    have three : closers quote = List.replicate 3 quote := rfl
    rw [← List.append_assoc, three, List.replicate_append_replicate]
  have count : min 5 (n + 2 + 1) = n + 3 := by omega
  rw [all, linesAfter_run (n + 2) ends, count, if_pos (by omega), Nat.add_sub_cancel]
  simp

/-- A quote with at most one more behind it belongs to the text. -/
theorem linesAfter_quote {body : List Char} (few : Few quote 1 body)
    (ends : rest.head? ≠ some quote) :
    linesAfter quote escapes 0 (quote :: (body ++ (closers quote ++ rest))) =
      cons quote (linesAfter quote escapes 0 (body ++ (closers quote ++ rest))) := by
  obtain ⟨n, most, tail, rfl, stops⟩ := few
  rw [List.append_assoc, ← List.cons_append, ← List.replicate_succ]
  cases tail with
  | nil =>
    rw [List.nil_append, linesAfter_replicate (by omega) ends, linesAfter_replicate (by omega) ends]
    rfl
  | cons c tail =>
    have stops : (c :: tail ++ (closers quote ++ rest)).head? ≠ some quote := stops
    rw [linesAfter_run n stops, if_neg (by omega)]

/-! ### With escapes -/

theorem few_of_head? {most : Nat} (other : cs.head? ≠ some quote) : Few quote most cs :=
  ⟨0, Nat.zero_le _, cs, rfl, other⟩

theorem Few.mono {few most : Nat} (h : Few quote few cs) (le : few ≤ most) : Few quote most cs := by
  obtain ⟨n, small, rest, text, stops⟩ := h
  exact ⟨n, Nat.le_trans small le, rest, text, stops⟩

theorem Few.cons {most : Nat} (few : Few quote most cs) : Few quote (most + 1) (quote :: cs) := by
  obtain ⟨n, most, rest, rfl, stops⟩ := few
  exact ⟨n + 1, by omega, rest, rfl, stops⟩

theorem head?_escapeChar (lines : Bool) (other : c ≠ '"') (rest : List Char) :
    (escapeChar lines c ++ rest).head? ≠ some '"' := by
  rcases escapeChar_cases lines other with ⟨own, -⟩ | ⟨code, escaped, -⟩
  · simpa [own] using other
  · simp [escaped]

theorem escapeFrom_bare {run : Nat} (room : run < 2) (cs : List Char) :
    escapeFrom true run ('"' :: cs) = '"' :: escapeFrom true (run + 1) cs := by
  rw [escapeFrom, if_pos rfl, if_pos rfl, if_pos room]

theorem escapeFrom_full {run : Nat} (full : ¬run < 2) (cs : List Char) :
    escapeFrom true run ('"' :: cs) = '\\' :: (['"'] ++ escapeFrom true 0 cs) := by
  rw [escapeFrom, if_pos rfl, if_pos rfl, if_neg full]
  rfl

theorem escapeFrom_other {lines : Bool} {run : Nat} (other : c ≠ '"') (cs : List Char) :
    escapeFrom lines run (c :: cs) = escapeChar lines c ++ escapeFrom lines 0 cs := by
  rw [escapeFrom, if_neg other]

/-- After some quotes in a row a text goes on with so many that there are two at most. -/
theorem few_escapeFrom (cs : List Char) (run : Nat) :
    Few '"' (2 - run) (escapeFrom true run cs) := by
  induction cs generalizing run with
  | nil => exact few_of_head? (by simp [escapeFrom])
  | cons c cs ih =>
    by_cases quote : c = '"'
    · subst quote
      by_cases room : run < 2
      · have next := (ih (run + 1)).cons
        rwa [← escapeFrom_bare room, show 2 - (run + 1) + 1 = 2 - run by omega] at next
      · rw [escapeFrom_full room]
        exact few_of_head? (by simp)
    · rw [escapeFrom_other quote]
      exact few_of_head? (head?_escapeChar true quote _)

/-- A text with escapes on several lines is read back. -/
theorem linesAfter_escapeFrom (cs : List Char) (run : Nat) (ends : rest.head? ≠ some '"') :
    linesAfter '"' true 0 (escapeFrom true run cs ++ (closers '"' ++ rest)) = some (cs, rest) := by
  induction cs generalizing run with
  | nil => exact linesAfter_replicate (n := 0) (by omega) ends
  | cons c cs ih =>
    by_cases quote : c = '"'
    · subst quote
      by_cases room : run < 2
      · have few := (few_escapeFrom cs (run + 1)).mono (by omega : 2 - (run + 1) ≤ 1)
        rw [escapeFrom_bare room, List.cons_append, linesAfter_quote few ends, ih]
        rfl
      · rw [escapeFrom_full room, List.cons_append, List.append_assoc,
          linesAfter_escaped (by decide) fun _ => rfl, ih]
        rfl
    · rw [escapeFrom_other quote, List.append_assoc]
      rcases escapeChar_cases true quote with ⟨own, backslash, carriage, plain⟩ |
        ⟨code, escaped, read⟩
      · have plain : c = '\n' ∨ isPlain c := by simpa [or_comm] using plain
        rw [own, List.singleton_append, linesAfter_plain quote (absurd · backslash) carriage plain,
          ih]
        rfl
      · rw [escaped, List.cons_append, linesAfter_escaped (by decide) read, ih]
        rfl

/-! ### Without escapes -/

theorem le_longestRun (quote : Char) (run : Nat) (cs : List Char) :
    run ≤ longestRun quote run cs := by
  induction cs generalizing run with
  | nil => exact Nat.le_refl run
  | cons c cs ih =>
    rw [longestRun]
    split
    · exact Nat.le_trans (Nat.le_succ run) (ih (run + 1))
    · exact Nat.le_max_left ..

/-- After some quotes in a row a text goes on with so many that there are not too many. -/
theorem few_of_longestRun {run most : Nat} (short : longestRun quote run cs ≤ most) :
    Few quote (most - run) cs := by
  induction cs generalizing run with
  | nil => exact few_of_head? (by simp)
  | cons c cs ih =>
    rw [longestRun] at short
    split at short
    · rename_i same
      subst same
      have room := Nat.le_trans (le_longestRun c (run + 1) cs) short
      have next := (ih short).cons
      rwa [show most - (run + 1) + 1 = most - run by omega] at next
    · rename_i other
      exact few_of_head? (by simpa using other)

/-- A text without escapes on several lines is read back, if it has few quotes in a row. -/
theorem linesAfter_append {run : Nat} (short : longestRun quote run cs ≤ 2)
    (plain : ∀ c ∈ cs, c = '\n' ∨ isPlain c) (ends : rest.head? ≠ some quote) :
    linesAfter quote false 0 (cs ++ (closers quote ++ rest)) = some (cs, rest) := by
  induction cs generalizing run with
  | nil => exact linesAfter_replicate (n := 0) (by omega) ends
  | cons c cs ih =>
    rw [List.forall_mem_cons] at plain
    rw [longestRun] at short
    split at short
    · rename_i same
      subst same
      have few := (few_of_longestRun short).mono (by omega : 2 - (run + 1) ≤ 1)
      rw [List.cons_append, linesAfter_quote few ends, ih short plain.2]
      rfl
    · rename_i other
      have carriage : c ≠ '\r' := by
        rintro rfl
        exact absurd plain.1 (by decide)
      have short : longestRun quote 0 cs ≤ 2 := by omega
      rw [List.cons_append, linesAfter_plain other (fun _ => rfl) carriage plain.1,
        ih short plain.2]
      rfl

/-! ## Any text -/

theorem newline?_of_head? (newline : cs.head? ≠ some '\n') (carriage : cs.head? ≠ some '\r') :
    newline? cs = none := by
  unfold newline?
  split
  · simp at newline
  · simp at carriage
  · rfl

/-- A text of several lines is read after its opening quotes, and after the end of their line. -/
theorem lines_opening {body : List Char}
    (starts : '\n' ∉ cs → body.head? ≠ some '\n' ∧ body.head? ≠ some '\r') :
    lines quote escapes (opening cs ++ body) = linesAfter quote escapes 0 body := by
  unfold opening
  split
  · rfl
  · rename_i single
    obtain ⟨newline, carriage⟩ := starts (by simpa using single)
    rw [List.nil_append, lines, newline?_of_head? newline carriage]
    rfl

theorem plain_of_not_isControl (uncontrolled : cs.any isControl = false) :
    ∀ c ∈ cs, c = '\n' ∨ isPlain c := by
  intro c among
  have other : isControl c = false := by simpa using List.any_eq_false.mp uncontrolled c among
  simp only [isControl, Bool.or_eq_false_iff, Bool.and_eq_false_iff,
    decide_eq_false_iff_not] at other
  simp only [isPlain, Bool.or_eq_true, Bool.and_eq_true, decide_eq_true_eq]
  by_cases newline : c = '\n'
  · exact .inl newline
  by_cases tab : c = '\t'
  · exact .inr (.inl tab)
  refine .inr (.inr ⟨?_, other.2⟩)
  simpa [newline, tab] using other.1

/-- What is known of a text that is written on one line without escapes. -/
theorem literal_of_quotesFor (chosen : quotesFor cs = .literal) :
    cs ≠ [] ∧ '\'' ∉ cs ∧ ∀ c ∈ cs, isPlain c := by
  have filled : cs ≠ [] := by
    rintro rfl
    cases chosen
  unfold quotesFor at chosen
  dsimp only at chosen
  split at chosen
  · split at chosen <;> cases chosen
  rename_i uncontrolled
  have plain := plain_of_not_isControl (Bool.eq_false_iff.mpr uncontrolled)
  split at chosen
  · cases chosen
  split at chosen
  · rename_i one
    obtain ⟨absent, single⟩ : '\'' ∉ cs ∧ '\n' ∉ cs := by simpa using one
    refine ⟨filled, absent, fun c among => (plain c among).resolve_left ?_⟩
    rintro rfl
    exact single among
  split at chosen
  · cases chosen
  split at chosen
  · cases chosen
  · split at chosen <;> cases chosen

/-- What is known of a text that is written on several lines without escapes. -/
theorem literalLines_of_quotesFor (chosen : quotesFor cs = .literalLines) :
    longestRun '\'' 0 cs ≤ 2 ∧ ∀ c ∈ cs, c = '\n' ∨ isPlain c := by
  unfold quotesFor at chosen
  dsimp only at chosen
  split at chosen
  · split at chosen <;> cases chosen
  rename_i uncontrolled
  have plain := plain_of_not_isControl (Bool.eq_false_iff.mpr uncontrolled)
  split at chosen
  · cases chosen
  split at chosen
  · cases chosen
  split at chosen
  · cases chosen
  split at chosen
  · rename_i short
    exact ⟨short, plain⟩
  · split at chosen <;> cases chosen

/-- A text with escapes does not begin with the end of a line, if it has none. -/
theorem head?_escapeFrom (single : '\n' ∉ cs) {c : Char} (ends : c = '\n' ∨ c = '\r')
    (rest : List Char) : (escapeFrom true 0 cs ++ (closers '"' ++ rest)).head? ≠ some c := by
  have quote : c ≠ '"' := by
    obtain rfl | rfl := ends <;> decide
  cases cs with
  | nil => simpa [escapeFrom] using Ne.symm quote
  | cons d cs =>
    by_cases first : d = '"'
    · subst first
      simpa [escapeFrom_bare] using Ne.symm quote
    rw [escapeFrom_other first]
    rcases escapeChar_cases true first with ⟨own, -, carriage, -⟩ | ⟨code, escaped, -⟩
    · have newline : d ≠ '\n' := by
        rintro rfl
        exact single (by simp)
      obtain rfl | rfl := ends
      · simpa [own] using newline
      · simpa [own] using carriage
    · obtain rfl | rfl := ends <;> simp [escaped]

/-- How a text on one line is told from one on several. -/
theorem text_basic {body : List Char} (one : ∀ rest, body ≠ '"' :: '"' :: rest) :
    text ('"' :: body) = asString (basicAfter 0 body) := by
  unfold text
  split
  · rename_i rest same
    exact absurd (List.cons.inj same).2 (one rest)
  · rename_i rest _ same
    rw [(List.cons.inj same).2]
  · rename_i same
    cases same
  · rename_i same
    cases same
  · rename_i other _ _
    exact absurd rfl (other body)

theorem text_literal {body : List Char} (one : ∀ rest, body ≠ '\'' :: '\'' :: rest) :
    text ('\'' :: body) = asString (literal body) := by
  unfold text
  split
  · rename_i same
    cases same
  · rename_i same
    cases same
  · rename_i rest same
    exact absurd (List.cons.inj same).2 (one rest)
  · rename_i rest _ same
    rw [(List.cons.inj same).2]
  · rename_i other
    exact absurd rfl (other body)

/-- A text with escapes on one line is no text on several lines. -/
theorem escapeFrom_ne_quotes (cs rest more : List Char) :
    escapeFrom false 0 cs ++ '"' :: '\n' :: rest ≠ '"' :: '"' :: more := by
  intro same
  cases cs with
  | nil =>
    have second : '\n' = '"' := (List.cons.inj (List.cons.inj same).2).1
    exact absurd second (by decide)
  | cons c cs =>
    have first : (escapeFrom false 0 (c :: cs) ++ '"' :: '\n' :: rest).head? = some '"' := by
      rw [same]
      rfl
    by_cases quote : c = '"'
    · subst quote
      simp [escapeFrom] at first
    · rw [escapeFrom_other quote, List.append_assoc] at first
      exact head?_escapeChar false quote _ first

theorem text_basicQuotes (cs rest : List Char) :
    text ('"' :: (escapeFrom false 0 cs ++ '"' :: '\n' :: rest)) =
      some (String.ofList cs, '\n' :: rest) := by
  rw [text_basic (escapeFrom_ne_quotes cs rest), basicAfter_escapeFrom]
  rfl

theorem text_literalQuotes (filled : cs ≠ []) (absent : '\'' ∉ cs) (plain : ∀ c ∈ cs, isPlain c)
    (rest : List Char) :
    text ('\'' :: (cs ++ '\'' :: '\n' :: rest)) = some (String.ofList cs, '\n' :: rest) := by
  have one (more : List Char) : cs ++ '\'' :: '\n' :: rest ≠ '\'' :: '\'' :: more := by
    obtain ⟨c, tail, rfl⟩ := List.exists_cons_of_ne_nil filled
    intro same
    exact absent (by simp [(List.cons.inj same).1])
  rw [text_literal one, literal_append plain absent]
  rfl

theorem text_basicLines (cs rest : List Char) :
    text ('"' :: '"' :: '"' :: (opening cs ++ (escapeFrom true 0 cs ++
      (closers '"' ++ '\n' :: rest)))) = some (String.ofList cs, '\n' :: rest) := by
  have read : lines '"' true (opening cs ++ (escapeFrom true 0 cs ++
      (closers '"' ++ '\n' :: rest))) = some (cs, '\n' :: rest) := by
    rw [lines_opening fun single =>
      ⟨head?_escapeFrom single (.inl rfl) _, head?_escapeFrom single (.inr rfl) _⟩]
    exact linesAfter_escapeFrom cs 0 (by simp)
  exact congrArg asString read

theorem text_literalLines (short : longestRun '\'' 0 cs ≤ 2)
    (plain : ∀ c ∈ cs, c = '\n' ∨ isPlain c) (rest : List Char) :
    text ('\'' :: '\'' :: '\'' :: (opening cs ++ (cs ++ (closers '\'' ++ '\n' :: rest)))) =
      some (String.ofList cs, '\n' :: rest) := by
  have starts (single : '\n' ∉ cs) :
      (cs ++ (closers '\'' ++ '\n' :: rest)).head? ≠ some '\n' ∧
        (cs ++ (closers '\'' ++ '\n' :: rest)).head? ≠ some '\r' := by
    cases cs with
    | nil => exact ⟨by simp, by simp⟩
    | cons c cs =>
      refine ⟨fun newline => ?_, fun carriage => ?_⟩
      · exact single (by simpa using Or.inl (Option.some.inj newline).symm)
      · obtain rfl : c = '\r' := Option.some.inj carriage
        exact absurd (plain '\r' List.mem_cons_self) (by decide)
  have read : lines '\'' false (opening cs ++ (cs ++ (closers '\'' ++ '\n' :: rest))) =
      some (cs, '\n' :: rest) := by
    rw [lines_opening starts]
    exact linesAfter_append short plain (by simp)
  exact congrArg asString read

/-- Every text is read back from its quotes, whatever it holds, up to the end of the line. -/
theorem text_quoteChars (cs rest : List Char) :
    text (quoteChars cs ++ '\n' :: rest) = some (String.ofList cs, '\n' :: rest) := by
  unfold quoteChars
  cases chosen : quotesFor cs with
  | basic => simpa using text_basicQuotes cs rest
  | literal =>
    obtain ⟨filled, absent, plain⟩ := literal_of_quotesFor chosen
    simpa using text_literalQuotes filled absent plain rest
  | basicLines => simpa using text_basicLines cs rest
  | literalLines =>
    obtain ⟨short, plain⟩ := literalLines_of_quotesFor chosen
    simpa using text_literalLines short plain rest

end Toml

end GraphIngest
