import GraphIngest.Url.Host
import Mathlib.Tactic.SplitIfs

/-!
# Separators in hosts

What separates the parts of a URL never becomes part of a domain. A separator that stands in the
text of a domain is neither decoded to something else nor composed with what follows it; it is still
there once the domain is ASCII, and no domain holds it. Addresses in brackets consist of digits,
colons and points.

## Main definitions

* `Url.isDelimiter`, `Domain.isSeparator`: characters that separate the parts of a URL.
* `Composition.mem_compose`: separators are not composed with others.
* `Domain.toAscii?_of_separator`: a text with a separator is no domain.
* `Host.shape_of_read`: a host has no separators, or is an address in brackets.
-/

namespace GraphIngest

/-- Whether a character parts what stands before and after it in a URL, whatever surrounds it, or
leaves no trace in a URL. -/
def Url.isDelimiter (c : Char) : Bool :=
  ['/', '\\', '?', '#', '@', '\t', '\n', '\r'].contains c

/-- Whether a character is a delimiter, or sets off a port or an address. -/
def Domain.isSeparator (c : Char) : Bool := c = ':' || c = '[' || Url.isDelimiter c

variable {x : Char} {cs : List Char}

/-- What each element of a list is mapped to is among what the list is mapped to. -/
theorem exists_mem_of_mapM {α β : Type} {f : α → Option β} {as : List α} {bs : List β}
    (h : as.mapM f = some bs) {a : α} (among : a ∈ as) : ∃ b ∈ bs, f a = some b := by
  induction as generalizing bs with
  | nil => cases among
  | cons c rest ih =>
    rw [List.mapM_cons] at h
    obtain ⟨d, first, h⟩ := Option.bind_eq_some_iff.mp h
    obtain ⟨ds, others, h⟩ := Option.bind_eq_some_iff.mp h
    obtain rfl := Option.some.inj h
    rcases List.mem_cons.mp among with rfl | later
    · exact ⟨d, List.mem_cons_self, first⟩
    · obtain ⟨b, found, value⟩ := ih others later
      exact ⟨b, List.mem_cons_of_mem _ found, value⟩

namespace Separated

/-- What is no separator belongs to a part. -/
theorem mem_split {separator : Char} (other : x ≠ separator) (among : x ∈ cs) :
    ∃ part ∈ split separator cs, x ∈ part := by
  induction cs with
  | nil => cases among
  | cons c rest ih =>
    unfold split
    split
    · rename_i separates
      have later := (List.mem_cons.mp among).resolve_left (separates ▸ other)
      obtain ⟨part, listed, within⟩ := ih later
      exact ⟨part, List.mem_cons_of_mem _ listed, within⟩
    · split
      · rename_i part parts found
        rcases List.mem_cons.mp among with rfl | later
        · exact ⟨x :: part, List.mem_cons_self, List.mem_cons_self⟩
        · obtain ⟨p, listed, within⟩ := ih later
          rw [found] at listed
          rcases List.mem_cons.mp listed with rfl | behind
          · exact ⟨c :: p, List.mem_cons_self, List.mem_cons_of_mem _ within⟩
          · exact ⟨p, List.mem_cons_of_mem _ behind, within⟩
      · rename_i none
        exact absurd none (split_ne_nil separator rest)

theorem mem_intercalate {separator : List Char} {parts : List (List Char)} {part : List Char}
    (listed : part ∈ parts) (within : x ∈ part) : x ∈ separator.intercalate parts := by
  induction parts with
  | nil => cases listed
  | cons first rest ih =>
    cases rest with
    | nil =>
      obtain rfl := List.mem_singleton.mp listed
      simpa using within
    | cons second rest =>
      rw [List.intercalate_cons_cons]
      rcases List.mem_cons.mp listed with rfl | later
      · exact List.mem_append_left _ (List.mem_append_left _ within)
      · exact List.mem_append_right _ (ih later)

end Separated

/-! ## Bytes -/

namespace Symbol

theorem le_of_isContinuation {b : UInt8} (h : isContinuation b = true) : 0x80 ≤ b := by
  simp only [isContinuation, Bool.and_eq_true, decide_eq_true_eq] at h
  exact h.1

theorem le_of_secondAllowed {b later : UInt8} (h : secondAllowed b later = true) :
    0x80 ≤ later := by
  have low (n : UInt8) (small : 0x80 ≤ n) (above : n ≤ later) : 0x80 ≤ later :=
    UInt8.le_trans small above
  unfold secondAllowed at h
  split_ifs at h
  case neg => exact le_of_isContinuation h
  all_goals
    simp only [Bool.and_eq_true, decide_eq_true_eq] at h
    exact low _ (by decide) h.1

/-- The bytes that a symbol takes after its first one are not ASCII. -/
theorem le_of_mem_start (b : UInt8) (rest : List UInt8) :
    ∀ later ∈ rest.take (start b rest).2, 0x80 ≤ later := by
  unfold start
  split
  · simp
  · simp
  · simp
  rename_i b₁ rest _ _
  cases second : secondAllowed b b₁ with
  | false => simp
  | true =>
    have second := le_of_secondAllowed second
    rw [Bool.not_true, if_neg Bool.false_ne_true]
    split
    · simpa using second
    split
    · simpa using second
    rename_i b₂ rest
    cases third : isContinuation b₂ with
    | false => simpa using second
    | true =>
      have third := le_of_isContinuation third
      rw [Bool.not_true, if_neg Bool.false_ne_true]
      split
      · simpa using ⟨second, third⟩
      split
      · simpa using ⟨second, third⟩
      rename_i b₃ _
      cases fourth : isContinuation b₃ with
      | false => simpa using ⟨second, third⟩
      | true => simpa using ⟨second, third, le_of_isContinuation fourth⟩

/-- A byte of ASCII is a character by itself, wherever it stands. -/
theorem char_mem_ofBytesAfter {skip : Nat} {bytes : List UInt8} {b : UInt8} (ascii : b < 0x80)
    (skipped : ∀ later ∈ bytes.take skip, 0x80 ≤ later) (among : b ∈ bytes) :
    char (Char.ofNat b.toNat) ∈ ofBytesAfter skip bytes := by
  induction bytes generalizing skip with
  | nil => cases among
  | cons c rest ih =>
    cases skip with
    | succ skip =>
      rw [List.take_succ_cons, List.forall_mem_cons] at skipped
      have other : b ≠ c := by
        rintro rfl
        exact absurd ascii (UInt8.not_lt.mpr skipped.1)
      exact ih skipped.2 ((List.mem_cons.mp among).resolve_left other)
    | zero =>
      rw [ofBytesAfter]
      rcases List.mem_cons.mp among with rfl | later
      · have single : sequenceLength b = 1 := if_pos (by grind)
        have whole : start b rest = (char (Char.ofNat b.toNat), 0) := by
          unfold start
          split
          all_goals simp_all
        rw [whole]
        exact List.mem_cons_self
      · exact List.mem_cons_of_mem _ (ih (le_of_mem_start c rest) later)

theorem mem_of_text? {symbols : List Symbol} {s : String} (h : text? symbols = some s)
    (among : char x ∈ symbols) : x ∈ s.toList := by
  obtain ⟨chars, all, rfl⟩ := Option.map_eq_some_iff.mp h
  obtain ⟨c, found, same⟩ := exists_mem_of_mapM all among
  rw [String.toList_ofList]
  exact Option.some.inj same ▸ found

end Symbol

/-- A character of ASCII that is no part of an encoded byte stands for itself. -/
theorem Percent.mem_decode (ascii : x.toNat < 0x80) (percent : x ≠ '%')
    (digit : Digit.value? x = none) (among : x ∈ cs) : UInt8.ofNat x.toNat ∈ decode cs := by
  have own : String.utf8EncodeChar x = [UInt8.ofNat x.toNat] := by
    have small : x.val.toNat ≤ 127 := Nat.le_of_lt_succ ascii
    rw [String.utf8EncodeChar, if_pos small]
    rfl
  have plain {b : Char} {m : Nat} (value : Digit.value? b = some m) : x ≠ b := by
    rintro rfl
    cases digit.symm.trans value
  fun_induction decode cs with
  | case1 a b rest m n high low ih =>
    have later : x ∈ rest := by simpa [percent, plain high, plain low] using among
    exact List.mem_cons_of_mem _ (ih later)
  | case2 a b rest other ih =>
    have later : x ∈ a :: b :: rest := by simpa [percent] using among
    exact List.mem_append_right _ (ih later)
  | case3 c rest other ih =>
    rcases List.mem_cons.mp among with rfl | later
    · exact List.mem_append_left _ (by simp [own])
    · exact List.mem_append_right _ (ih later)
  | case4 => cases among

/-! ## Forms -/

theorem DomainForm.of?_of_ascii (ascii : x.toNat < 0x80) : of? x = some [x.toLower] := if_pos ascii

namespace Composition

theorem mem_insertMark {c d : Char} (h : d = c ∨ d ∈ cs) : d ∈ insertMark c cs := by
  induction cs with
  | nil => simpa [insertMark] using h
  | cons e rest ih =>
    unfold insertMark
    split <;> grind

theorem mem_decomposeAll (ascii : x.toNat < 0x80) (among : x ∈ cs) : x ∈ decomposeAll cs := by
  have apart : x ∈ cs.flatMap decompose :=
    List.mem_flatMap.mpr ⟨x, among, by simp [decompose_of_ascii ascii]⟩
  unfold decomposeAll
  clear among
  generalize cs.flatMap decompose = parts at apart
  induction parts with
  | nil => cases apart
  | cons c rest ih =>
    refine mem_insertMark ?_
    rcases List.mem_cons.mp apart with rfl | later
    · exact .inl rfl
    · exact .inr (ih later)

/-- Whether a character is what a composite may begin with: a letter, a sign of comparison, or not
ASCII. -/
def mayBegin (c : Char) : Bool := c.isAlpha || ('<' ≤ c && c ≤ '>') || 0x80 ≤ c.toNat

theorem all_toList {p : Char → Bool} {s : String} {chars : List Char}
    (same : s = String.ofList chars) (all : chars.all p) : s.toList.all p := by
  rw [same, String.toList_ofList]
  exact all

set_option maxRecDepth 2000 in
theorem mayBegin_of_mem_groups : ∀ g ∈ groups, g.2.toList.all mayBegin := by
  unfold groups
  repeat refine List.forall_mem_cons.mpr ⟨all_toList rfl (by decide), ?_⟩
  exact nofun

theorem first_mem_of_compositesWith {second : Char} {row : List Char} {p : Composite}
    (h : p ∈ compositesWith second row) : p.first ∈ row := by
  fun_induction compositesWith second row with
  | case1 whole first rest ih =>
    rcases List.mem_cons.mp h with rfl | later
    · simp
    · simp [ih later]
  | case2 => cases h

/-- Composites begin with letters and the like. -/
theorem mayBegin_of_mem_composites {p : Composite} (h : p ∈ composites) : mayBegin p.first := by
  obtain ⟨g, group, listed⟩ := List.mem_flatMap.mp h
  exact List.all_eq_true.mp (mayBegin_of_mem_groups g group) _ (first_mem_of_compositesWith listed)

/-- Nothing is composed with ASCII in the second place. -/
theorem pair?_of_ascii (b : Char) (ascii : x.toNat < 0x80) : pair? b x = none :=
  if_pos (by omega)

/-- Nothing is composed with what begins no composite in the first place. -/
theorem pair?_of_not_mayBegin (c : Char) (begins : mayBegin x = false) : pair? x c = none := by
  have ascii : x.toNat < 0x80 := by
    simp only [mayBegin, Bool.or_eq_false_iff, decide_eq_false_iff_not] at begins
    omega
  have listed : composites.find? (fun p => p.second = c ∧ p.first = x) = none := by
    refine List.find?_eq_none.mpr fun p among found => ?_
    have same : p.first = x := (of_decide_eq_true found).2
    exact absurd (same ▸ mayBegin_of_mem_composites among) (by simp [begins])
  have apart : syllable? x c = none := by
    unfold syllable?
    rw [if_neg (by omega), if_neg (by omega)]
  unfold pair?
  split
  · rfl
  · rw [listed, apart]

theorem mem_composeFrom {base : Char} {marks : List Char} (ascii : x.toNat < 0x80)
    (begins : mayBegin x = false) (among : x ∈ base :: (marks ++ cs)) :
    x ∈ composeFrom base marks cs := by
  induction cs generalizing base marks with
  | nil => simpa [composeFrom] using among
  | cons c rest ih =>
    unfold composeFrom
    dsimp only
    split
    · rename_i whole composed
      -- Neither of two characters that are composed is the one in question.
      obtain ⟨-, composed⟩ := Option.ite_none_right_eq_some.mp composed
      have notBase : x ≠ base := by
        rintro rfl
        cases (pair?_of_not_mayBegin c begins).symm.trans composed
      have notSecond : x ≠ c := by
        rintro rfl
        cases (pair?_of_ascii base ascii).symm.trans composed
      refine ih ?_
      simp only [List.mem_cons, List.mem_append, notBase, notSecond, false_or] at among ⊢
      exact .inr among
    · split
      · have later (h : x = c ∨ x ∈ rest) : x ∈ composeFrom c [] rest := ih (by simpa using h)
        simp only [List.mem_cons, List.mem_append, List.mem_reverse] at among ⊢
        rcases among with first | marked | next
        · exact .inl first
        · exact .inr (.inl marked)
        · exact .inr (.inr (later next))
      · refine ih ?_
        simp only [List.mem_cons, List.mem_append] at among ⊢
        rcases among with first | marked | next | later
        · exact .inl first
        · exact .inr (.inl (.inr marked))
        · exact .inr (.inl (.inl next))
        · exact .inr (.inr later)

/-- ASCII that begins no composite is composed with nothing. -/
theorem mem_compose (ascii : x.toNat < 0x80) (begins : mayBegin x = false) (among : x ∈ cs) :
    x ∈ compose cs := by
  have apart := mem_decomposeAll ascii among
  unfold compose
  split
  · simp_all
  · rename_i c rest whole
    exact mem_composeFrom ascii begins (by simpa [whole] using apart)

end Composition

/-! ## Labels -/

namespace Punycode

theorem mem_insertAll {label : List Nat} {basic code : Nat} {s : EncodeState} (h : x ∈ s.text) :
    x ∈ (insertAll label basic code s).text := by
  unfold insertAll
  dsimp only
  induction label generalizing s with
  | nil => exact h
  | cons c rest ih =>
    rw [List.foldl_cons]
    split
    · exact ih h
    · split
      · exact ih (List.mem_append_left _ h)
      · exact ih h

/-- The ASCII characters of a label are part of its ASCII text. -/
theorem mem_encode (ascii : x.toNat < 0x80) (among : x ∈ cs) : x ∈ encode cs := by
  have basic : x ∈ cs.filter (·.toNat < 128) := List.mem_filter.mpr ⟨among, by simpa using ascii⟩
  have filled : (cs.filter (·.toNat < 128)).isEmpty = false :=
    List.isEmpty_eq_false_iff.mpr (List.ne_nil_of_mem basic)
  have kept (others : List Nat) (start : EncodeState × Nat) (h : x ∈ start.1.text) :
      x ∈ (others.foldl (fun next code =>
        let s : EncodeState :=
          { next.1 with delta := next.1.delta + (code - next.2) * (next.1.written + 1) }
        (insertAll (cs.map Char.toNat) (cs.filter (·.toNat < 128)).length code s, code + 1))
        start).1.text := by
    induction others generalizing start with
    | nil => exact h
    | cons code rest ih => exact ih _ (mem_insertAll h)
  unfold encode
  dsimp only
  refine kept _ _ ?_
  rw [filled]
  exact List.mem_append_left _ basic

end Punycode

namespace DomainLabel

variable {l : DomainLabel}

theorem text_of_ofCoded? {coded : List Char} (h : ofCoded? coded = some l) :
    l.text = mark ++ coded := by
  unfold ofCoded? at h
  split at h
  · cases h
  obtain ⟨plain, -, h⟩ := Option.bind_eq_some_iff.mp h
  split at h
  · cases h
  obtain rfl := Option.some.inj h
  rfl

/-- The ASCII characters of a label are part of its ASCII text. -/
theorem mem_text (ascii : x.toNat < 0x80) (h : read? cs = some l) (among : x ∈ cs) :
    x ∈ l.text := by
  unfold read? at h
  split at h
  · rename_i marked
    obtain ⟨coded, rfl⟩ := List.isPrefixOf_iff_prefix.mp marked
    rw [List.drop_left] at h
    exact text_of_ofCoded? h ▸ among
  split at h
  · obtain rfl := Option.some.inj h
    exact among
  split at h
  · obtain rfl := Option.some.inj h
    exact List.mem_append_right _ (Punycode.mem_encode ascii among)
  · cases h

end DomainLabel

/-! ## Domains -/

namespace Domain

/-- What is known of all separators. -/
theorem of_isSeparator (separates : isSeparator x) :
    x.toNat < 0x80 ∧ x ≠ '%' ∧ x ≠ '.' ∧ Digit.value? x = none ∧ x.toLower = x ∧
      Composition.mayBegin x = false ∧ isForbidden x := by
  have listed : x ∈ [':', '[', '/', '\\', '?', '#', '@', '\t', '\n', '\r'] := by
    simpa [isSeparator, Url.isDelimiter, or_assoc] using separates
  simp only [List.mem_cons, List.not_mem_nil, or_false] at listed
  rcases listed with rfl | rfl | rfl | rfl | rfl | rfl | rfl | rfl | rfl | rfl <;> decide

/-- A text with a separator is no domain. -/
theorem toAscii?_of_separator (separates : isSeparator x) (among : x ∈ cs) :
    toAscii? cs = none := by
  obtain ⟨ascii, -, notPoint, -, lower, begins, forbidden⟩ := of_isSeparator separates
  unfold toAscii?
  cases labels : labels? cs with
  | none => rfl
  | some ls =>
    obtain ⟨text, formed, read⟩ := Option.bind_eq_some_iff.mp labels
    obtain ⟨forms, mapped, rfl⟩ := Option.map_eq_some_iff.mp formed
    obtain ⟨all, labelled, read⟩ := Option.bind_eq_some_iff.mp read
    obtain rfl : all = ls := by
      split at read
      · cases read
      · exact Option.some.inj read
    have form : x ∈ forms.flatten := by
      obtain ⟨form, listed, own⟩ := exists_mem_of_mapM mapped among
      obtain rfl := Option.some.inj ((DomainForm.of?_of_ascii ascii).symm.trans own)
      exact List.mem_flatten.mpr ⟨_, listed, by simp [lower]⟩
    have composed := Composition.mem_compose ascii begins form
    obtain ⟨part, listed, within⟩ := Separated.mem_split notPoint composed
    obtain ⟨l, label, own⟩ := exists_mem_of_mapM labelled listed
    have text : x ∈ ['.'].intercalate (all.map (·.text)) :=
      Separated.mem_intercalate (List.mem_map_of_mem label) (DomainLabel.mem_text ascii own within)
    have held : (['.'].intercalate (all.map (·.text))).any isForbidden :=
      List.any_eq_true.mpr ⟨x, text, forbidden⟩
    exact if_pos held

end Domain

namespace Host

/-- A text with a separator is no host, unless it begins with a bracket. -/
theorem read_of_separator (separates : Domain.isSeparator x) (among : x ∈ cs)
    (unbracketed : cs.head? ≠ some '[') : read cs = .error .invalidDomain := by
  obtain ⟨ascii, percent, -, digit, -⟩ := Domain.of_isSeparator separates
  unfold read
  split
  · simp at unbracketed
  split
  · rfl
  · rename_i s decoded
    have kept : x ∈ s.toList := by
      refine Symbol.mem_of_text? decoded ?_
      have byte := Percent.mem_decode ascii percent digit among
      have number : (UInt8.ofNat x.toNat).toNat = x.toNat :=
        UInt8.toNat_ofNat_of_lt' (Nat.lt_trans ascii (by decide))
      have small : UInt8.ofNat x.toNat < 0x80 := by
        rw [UInt8.lt_iff_toNat_lt, number]
        exact ascii
      have read : Symbol.char _ ∈ Symbol.ofBytes _ :=
        Symbol.char_mem_ofBytesAfter small (by simp) byte
      rwa [number, Char.ofNat_toNat] at read
    rw [Domain.toAscii?_of_separator separates kept]

/-! ## Addresses in brackets -/

/-- A character of an address in brackets. -/
def InAddress (c : Char) : Prop := (Digit.value? c).isSome ∨ c = ':' ∨ c = '.'

instance (c : Char) : Decidable (InAddress c) := inferInstanceAs (Decidable (_ ∨ _))

theorem digits_of_natOf? {base n : Nat} (h : Digit.natOf? base cs = some n) :
    ∀ c ∈ cs, (Digit.value? c).isSome := by
  unfold Digit.natOf? at h
  generalize 0 = start at h
  induction cs generalizing start with
  | nil => exact nofun
  | cons c rest ih =>
    rw [List.foldlM_cons] at h
    obtain ⟨next, first, h⟩ := Option.bind_eq_some_iff.mp h
    refine List.forall_mem_cons.mpr ⟨?_, ih next h⟩
    split at first
    · rename_i value
      simp [value]
    · cases first

theorem digits_of_ipv6Piece? {n : Nat} (h : ipv6Piece? cs = some n) :
    ∀ c ∈ cs, (Digit.value? c).isSome :=
  digits_of_natOf? (Option.ite_none_right_eq_some.mp h).2

theorem inAddress_of_embeddedIpv4? {ps : List Nat} (h : embeddedIpv4? cs = some ps) :
    ∀ c ∈ cs, InAddress c := by
  obtain ⟨bytes, read, -⟩ := Option.bind_eq_some_iff.mp h
  intro c among
  by_cases point : c = '.'
  · exact .inr (.inr point)
  obtain ⟨part, listed, within⟩ := Separated.mem_split point among
  obtain ⟨byte, -, own⟩ := exists_mem_of_mapM read listed
  obtain ⟨n, number, -⟩ := Option.bind_eq_some_iff.mp own
  exact .inl (digits_of_natOf? number c within)

theorem inAddress_of_piecesOf? {embedded : Bool} {parts : List (List Char)} {ps : List Nat}
    (h : piecesOf? embedded parts = some ps) : ∀ part ∈ parts, ∀ c ∈ part, InAddress c := by
  fun_induction piecesOf? embedded parts generalizing ps with
  | case1 => exact nofun
  | case2 last n piece =>
    simpa using fun c among => .inl (digits_of_ipv6Piece? piece c among)
  | case3 last piece embeds =>
    simpa using inAddress_of_embeddedIpv4? h
  | case4 => cases h
  | case5 p rest more ih =>
    obtain ⟨n, piece, h⟩ := Option.bind_eq_some_iff.mp h
    obtain ⟨others, read, -⟩ := Option.bind_eq_some_iff.mp h
    exact List.forall_mem_cons.mpr
      ⟨fun c among => .inl (digits_of_ipv6Piece? piece c among), ih read⟩

theorem inAddress_of_pieces? {embedded : Bool} {ps : List Nat} (h : pieces? embedded cs = some ps) :
    ∀ c ∈ cs, InAddress c := by
  intro c among
  unfold pieces? at h
  split at h
  · rename_i empty
    cases List.isEmpty_iff.mp empty ▸ among
  by_cases colon : c = ':'
  · exact .inr (.inl colon)
  obtain ⟨part, listed, within⟩ := Separated.mem_split colon among
  exact inAddress_of_piecesOf? h part listed c within

theorem eq_append_of_splitGap {left right : List Char} (h : splitGap cs = some (left, right)) :
    cs = left ++ ':' :: ':' :: right := by
  fun_induction splitGap cs generalizing left with
  | case1 rest =>
    cases h
    rfl
  | case2 c rest other ih =>
    obtain ⟨⟨front, back⟩, found, same⟩ := Option.map_eq_some_iff.mp h
    cases same
    rw [ih found]
    rfl
  | case3 => cases h

theorem inAddress_of_ipv6? {ps : List Nat} (h : ipv6? cs = some ps) : ∀ c ∈ cs, InAddress c := by
  unfold ipv6? at h
  split at h
  · obtain ⟨all, read, -⟩ := Option.bind_eq_some_iff.mp h
    exact inAddress_of_pieces? read
  · rename_i left right gap
    obtain ⟨ls, before, h⟩ := Option.bind_eq_some_iff.mp h
    obtain ⟨rs, after, -⟩ := Option.bind_eq_some_iff.mp h
    obtain rfl := eq_append_of_splitGap gap
    intro c among
    rcases List.mem_append.mp among with front | back
    · exact inAddress_of_pieces? before c front
    · rcases List.mem_cons.mp back with colon | back
      · exact .inr (.inl colon)
      rcases List.mem_cons.mp back with colon | back
      · exact .inr (.inl colon)
      · exact inAddress_of_pieces? after c back

/-! ## Hosts -/

/-- A host has no separators, or it is an address in brackets. -/
theorem shape_of_read {h : Host} (named : read cs = .ok h) :
    (∀ c ∈ cs, Domain.isSeparator c = false) ∨
      ∃ inner, cs = '[' :: (inner ++ [']']) ∧ ∀ c ∈ inner, InAddress c := by
  by_cases bracketed : cs.head? = some '['
  · obtain ⟨rest, rfl⟩ := List.head?_eq_some_iff.mp bracketed
    refine .inr ?_
    replace named : readBracketed rest = .ok h := named
    unfold readBracketed at named
    split at named
    · rename_i reversed ends
      split at named
      · rename_i ps address
        refine ⟨reversed.reverse, ?_, inAddress_of_ipv6? address⟩
        rw [← List.reverse_reverse rest, ends, List.reverse_cons]
      · cases named
    · cases named
  · refine .inl fun c among => Bool.eq_false_iff.mpr fun separates => ?_
    rw [read_of_separator separates among bracketed] at named
    cases named

end Host

end GraphIngest
