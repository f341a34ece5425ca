import GraphIngest.Proofs.Url.Host
import GraphIngest.Url.Reader
import Mathlib.Data.List.Basic
import Mathlib.Data.List.TakeWhile

/-!
# Addresses of hosts and ports

A host and a port that are written into a URL are read back as this host and this port, if the text
is a host by itself. If it is not, then the URL is no URL, unless the text has delimiters.

## Main definitions

* `Url.ofAddress`: the URL of a host and a port over HTTP.
* `Url.addressText`: the text of this URL.
* `Url.parse_addressText`: what is read back from it.
* `Url.parse_addressText_of_error`: what is no host is not read back.
-/

namespace GraphIngest

namespace Url

open Digit (natOf_toDigits isDigit_of_mem_toDigits)

/-- The URL of a host and a port over HTTP. The port that HTTP implies is left out. -/
def ofAddress (host : Host) (port : Nat) : Url where
  scheme := "http".toList
  host := some host
  port := if port = 80 then none else some port
  path := .segments [[]]

/-- The text of a URL with a host and a port over HTTP. -/
def addressText (host : List Char) (port : Nat) : List Char :=
  ['h', 't', 't', 'p', ':', '/', '/'] ++ (host ++ ':' :: Nat.toDigits 10 port)

variable {cs : List Char}

/-! ## Delimiters -/

/-- Digits delimit nothing. -/
theorem isDelimiter_of_isDigit {c : Char} (digit : c.isDigit) : isDelimiter c = false := by
  refine Bool.eq_false_iff.mpr fun delimits => ?_
  obtain rfl | rfl | rfl | rfl | rfl | rfl | rfl | rfl := by simpa [isDelimiter] using delimits
  all_goals exact absurd digit (by decide)

/-- What an address in brackets consists of delimits nothing. -/
theorem isDelimiter_of_inAddress {c : Char} (within : Host.InAddress c) :
    isDelimiter c = false := by
  refine Bool.eq_false_iff.mpr fun delimits => ?_
  obtain rfl | rfl | rfl | rfl | rfl | rfl | rfl | rfl := by simpa [isDelimiter] using delimits
  all_goals exact absurd within (by decide)

/-! ## Cutting -/

theorem notMem_of_plain {mark : Char} (plain : ∀ c ∈ cs, isDelimiter c = false)
    (delimits : isDelimiter mark) : mark ∉ cs := by
  intro among
  simp [plain mark among] at delimits

theorem isSlash_of_plain (plain : ∀ c ∈ cs, isDelimiter c = false) :
    ∀ c ∈ cs, isSlash true c = false := by
  intro c among
  have slash : c ≠ '/' := fun same => notMem_of_plain plain (by decide) (same ▸ among)
  have backslash : c ≠ '\\' := fun same => notMem_of_plain plain (by decide) (same ▸ among)
  simp [isSlash, slash, backslash]

/-- A text that begins and ends with something visible is not changed if it has no character that
leaves no trace. -/
theorem clean_of_plain {first last : Char} (visible : isPadding first = false)
    (visible' : isPadding last = false)
    (plain : ∀ c ∈ first :: (cs ++ [last]), Path.isSkipped c = false) :
    clean (first :: (cs ++ [last])) = first :: (cs ++ [last]) := by
  have left : (first :: (cs ++ [last])).dropWhile isPadding = first :: (cs ++ [last]) := by
    rw [List.dropWhile_cons, visible]
    rfl
  have turned : (first :: (cs ++ [last])).reverse = last :: (cs.reverse ++ [first]) := by simp
  have right : (last :: (cs.reverse ++ [first])).dropWhile isPadding =
      last :: (cs.reverse ++ [first]) := by
    rw [List.dropWhile_cons, visible']
    rfl
  rw [clean, left, turned, right, ← turned, List.reverse_reverse]
  exact List.filter_eq_self.mpr fun c among => by simp [plain c among]

theorem cut_of_notMem {mark : Char} (absent : mark ∉ cs) : cut mark cs = (cs, none) := by
  induction cs with
  | nil => rfl
  | cons c rest ih =>
    rw [List.mem_cons, not_or] at absent
    rw [cut, if_neg (Ne.symm absent.1), ih absent.2]

theorem credentials_of_notMem (absent : '@' ∉ cs) : credentials cs = ⟨[], [], false, cs⟩ := by
  have all : cs.reverse.dropWhile (· ≠ '@') = [] := by
    refine List.dropWhile_eq_nil_iff.mpr fun c among => ?_
    have other : c ≠ '@' := fun same => absent (same ▸ List.mem_reverse.mp among)
    simpa using other
  have none : splitAt? cs = none := by
    rw [splitAt?, all]
  rw [credentials, none]

/-! ## Hosts -/

/-- Where a host ends that is followed by a port: where it should, at a colon of its own, or not at
all because of a bracket. -/
theorem hostEnd_cases (bracketed : Bool) (cs digits : List Char)
    (numeric : ∀ c ∈ digits, c.isDigit) :
    let ends := hostEnd bracketed (cs ++ ':' :: digits)
    ends = (cs, ':' :: digits) ∨
    (∃ front back, cs = front ++ ':' :: back ∧
      ends = (front, ':' :: (back ++ ':' :: digits))) ∨
    (ends = (cs ++ ':' :: digits, []) ∧ (bracketed ∨ '[' ∈ cs)) := by
  have all : hostEnd true digits = (digits, []) := by
    induction digits with
    | nil => rfl
    | cons d rest ih =>
      rw [List.forall_mem_cons] at numeric
      have opens : d ≠ '[' := by rintro rfl; simp at numeric
      have closes : d ≠ ']' := by rintro rfl; simp at numeric
      simp [hostEnd, opens, closes, ih numeric.2]
  induction cs generalizing bracketed with
  | nil =>
    cases bracketed with
    | false => exact .inl (by simp [hostEnd])
    | true => exact .inr (.inr (by simp [hostEnd, all]))
  | cons c rest ih =>
    by_cases ends : c = ':' ∧ ¬bracketed
    · refine .inr (.inl ⟨[], rest, by simp [ends.1], ?_⟩)
      simp [hostEnd, ends]
    · have step (text : List Char) : hostEnd bracketed (c :: text) =
          let r := hostEnd (if c = '[' then true else if c = ']' then false else bracketed) text
          (c :: r.1, r.2) := by
        rw [hostEnd, if_neg ends]
      simp only [List.cons_append, step]
      rcases ih (if c = '[' then true else if c = ']' then false else bracketed) with
        whole | ⟨front, back, rfl, early⟩ | ⟨never, opened⟩
      · exact .inl (by rw [whole])
      · exact .inr (.inl ⟨c :: front, back, rfl, by rw [early]⟩)
      · refine .inr (.inr ⟨by rw [never], ?_⟩)
        grind

/-- The host is followed by its port if it has no separators. -/
theorem hostEnd_of_plain (plain : ∀ c ∈ cs, Domain.isSeparator c = false) (rest : List Char) :
    hostEnd false (cs ++ ':' :: rest) = (cs, ':' :: rest) := by
  induction cs with
  | nil => rfl
  | cons c cs ih =>
    rw [List.forall_mem_cons] at plain
    have colon : c ≠ ':' := by rintro rfl; simp [Domain.isSeparator] at plain
    have opens : c ≠ '[' := by rintro rfl; simp [Domain.isSeparator] at plain
    simp [hostEnd, colon, opens, ih plain.2]

/-- An address in brackets is followed by its port. -/
theorem hostEnd_of_bracketed (inner : ∀ c ∈ cs, Host.InAddress c) (rest : List Char) :
    hostEnd false ('[' :: (cs ++ [']']) ++ ':' :: rest) = ('[' :: (cs ++ [']']), ':' :: rest) := by
  have within : hostEnd true (cs ++ ']' :: ':' :: rest) = (cs ++ [']'], ':' :: rest) := by
    induction cs with
    | nil => simp [hostEnd]
    | cons c cs ih =>
      rw [List.forall_mem_cons] at inner
      have opens : c ≠ '[' := by rintro rfl; exact absurd inner.1 (by decide)
      have closes : c ≠ ']' := by rintro rfl; exact absurd inner.1 (by decide)
      simp [hostEnd, opens, closes, ih inner.2]
  simp [hostEnd, within]

/-! ## Ports -/

theorem portAfter_toDigits {port : Nat} (small : port ≤ 65535) :
    portAfter "http".toList (Nat.toDigits 10 port) =
      .ok (if port = 80 then none else some port, []) := by
  have digits : (Nat.toDigits 10 port).takeWhile Char.isDigit = Nat.toDigits 10 port :=
    List.takeWhile_eq_self_iff.mpr fun c => isDigit_of_mem_toDigits
  have rest : (Nat.toDigits 10 port).dropWhile Char.isDigit = [] :=
    List.dropWhile_eq_nil_iff.mpr fun c => isDigit_of_mem_toDigits
  have filled : (Nat.toDigits 10 port).isEmpty = false :=
    List.isEmpty_eq_false_iff.mpr Nat.toDigits_ne_nil
  have implied : defaultPort? "http".toList = some 80 := by decide
  simp only [portAfter, digits, rest, natOf_toDigits, filled, implied]
  rw [if_neg (by omega), if_neg (by simp)]
  split <;> split <;> simp_all

/-- A second colon is not part of a port. -/
theorem portAfter_of_colon (scheme digits : List Char) (absent : '\\' ∉ cs) :
    portAfter scheme (cs ++ ':' :: digits) = .error .invalidPort := by
  have rest : ∃ c later, (cs ++ ':' :: digits).dropWhile Char.isDigit = c :: later ∧ c ≠ '\\' := by
    induction cs with
    | nil => exact ⟨':', digits, by simp, by decide⟩
    | cons c cs ih =>
      rw [List.mem_cons, not_or] at absent
      rw [List.cons_append, List.dropWhile_cons]
      split
      · exact ih absent.2
      · exact ⟨c, _, rfl, Ne.symm absent.1⟩
  obtain ⟨c, later, found, other⟩ := rest
  unfold portAfter
  simp only [found]
  split
  · rfl
  · simp [other]

/-! ## Addresses -/

/-- What is read of a URL over HTTP that has an authority only. -/
theorem authority_of_plain (plain : ∀ c ∈ cs, isDelimiter c = false) (head : List Char) :
    authority "http".toList cs ⟨head, none, none⟩ =
      let (hostText, afterHost) := hostEnd false cs
      if hostText.isEmpty then .error .emptyHost
      else do
        let host ← Host.read hostText
        let (port, afterPort) ← match afterHost with
          | _ :: digits => portAfter "http".toList digits
          | [] => .ok (none, [])
        return {
          scheme := "http".toList
          host := some host
          port := port
          path := .segments (pathAfter true afterPort) } := by
  have special : isSpecialScheme "http".toList = true := by decide
  have noSlash : ∀ c ∈ cs, (!isSlash true c) = true := fun c among => by
    simp [isSlash_of_plain plain c among]
  have text : cs.takeWhile (!isSlash true ·) = cs := List.takeWhile_eq_self_iff.mpr noSlash
  have path : cs.dropWhile (!isSlash true ·) = [] := List.dropWhile_eq_nil_iff.mpr noSlash
  have credentials : credentials cs = ⟨[], [], false, cs⟩ :=
    credentials_of_notMem (notMem_of_plain plain (by decide))
  unfold authority
  simp only [special, text, path, credentials]
  by_cases empty : (hostEnd false cs).1.isEmpty
  · simp [empty]
    rfl
  · simp only [empty, readHost, withParts, Option.map_none, List.append_nil, if_true]
    simp only [Bool.false_eq_true, false_and, if_false]
    rfl

section Text

variable {host : List Char} {port : Nat}

/-- After a host without delimiters there are none in a port. -/
theorem plain_append_port (plain : ∀ c ∈ host, isDelimiter c = false) (port : Nat) :
    ∀ c ∈ host ++ ':' :: Nat.toDigits 10 port, isDelimiter c = false := by
  intro c among
  rcases List.mem_append.mp among with named | numbered
  · exact plain c named
  rcases List.mem_cons.mp numbered with rfl | digit
  · decide
  · exact isDelimiter_of_isDigit (isDigit_of_mem_toDigits digit)

/-- The text of an address has no delimiters but the slashes before the host. -/
theorem notMem_addressText (plain : ∀ c ∈ host, isDelimiter c = false) {mark : Char}
    (delimits : isDelimiter mark) (other : mark ≠ '/') : mark ∉ addressText host port := by
  intro among
  rcases List.mem_append.mp among with scheme | rest
  · have slashed : ("http://".toList.all fun c => !isDelimiter c || c = '/') := by decide
    have mark := List.all_eq_true.mp slashed mark scheme
    simp [delimits, other] at mark
  · exact notMem_of_plain (plain_append_port plain port) delimits rest

theorem clean_addressText (plain : ∀ c ∈ host, isDelimiter c = false) :
    clean (addressText host port) = addressText host port := by
  obtain ⟨digits, last, ends⟩ : ∃ digits last, Nat.toDigits 10 port = digits ++ [last] :=
    ⟨_, _, (List.dropLast_concat_getLast Nat.toDigits_ne_nil).symm⟩
  have text : addressText host port =
      'h' :: ((['t', 't', 'p', ':', '/', '/'] ++ (host ++ ':' :: digits)) ++ [last]) := by
    simp [addressText, ends]
  have among : last ∈ Nat.toDigits 10 port := ends ▸ by simp
  have digit : last.isDigit := isDigit_of_mem_toDigits among
  have visible : isPadding last = false := by
    have zero : 48 ≤ last.toNat := (Char.isDigit_iff_toNat.mp digit).1
    simp only [isPadding, decide_eq_false_iff_not]
    omega
  rw [text]
  refine clean_of_plain (by decide) visible fun c among => Bool.eq_false_iff.mpr fun skipped => ?_
  rw [← text] at among
  have listed : c = '\t' ∨ c = '\n' ∨ c = '\r' := by
    simpa [Path.isSkipped, or_assoc] using skipped
  refine notMem_addressText plain ?_ ?_ among
  · obtain rfl | rfl | rfl := listed <;> decide
  · obtain rfl | rfl | rfl := listed <;> decide

/-- The URL of an address is read from its authority. -/
theorem parse_addressText_eq (plain : ∀ c ∈ host, isDelimiter c = false) (port : Nat) :
    parse (String.ofList (addressText host port)) = authority "http".toList
      (host ++ ':' :: Nat.toDigits 10 port) ⟨addressText host port, none, none⟩ := by
  have uncut : Parts.of (addressText host port) = ⟨addressText host port, none, none⟩ := by
    have whole (mark : Char) (delimits : isDelimiter mark) (other : mark ≠ '/') :
        cut mark (addressText host port) = (addressText host port, none) :=
      cut_of_notMem (notMem_addressText plain delimits other)
    rw [Parts.of, whole '#' (by decide) (by decide), whole '?' (by decide) (by decide)]
  have scheme : scheme? (addressText host port) =
      some ("http".toList, "//".toList ++ (host ++ ':' :: Nat.toDigits 10 port)) := rfl
  have slashes : ("//".toList ++ (host ++ ':' :: Nat.toDigits 10 port)).takeWhile (isSlash true) =
      "//".toList := by
    have first : (host ++ ':' :: Nat.toDigits 10 port).takeWhile (isSlash true) = [] := by
      obtain ⟨c, rest, text⟩ : ∃ c rest, host ++ ':' :: Nat.toDigits 10 port = c :: rest :=
        List.exists_cons_of_ne_nil (by simp)
      have other := isSlash_of_plain (plain_append_port plain port) c (by simp [text])
      rw [text, List.takeWhile_cons, other]
      rfl
    have pair : "//".toList.all (isSlash true) := by decide
    rw [List.takeWhile_append_of_pos (List.all_eq_true.mp pair), first]
    rfl
  unfold parse read
  rw [String.toList_ofList, clean_addressText plain, uncut]
  dsimp only
  rw [scheme]
  dsimp only
  unfold afterScheme
  rw [if_neg (by decide), if_pos (by decide), slashes]
  rfl

end Text

/-- A host by itself has no delimiters, and its port follows it. -/
theorem plain_of_read {host : List Char} {h : Host} (named : Host.read host = .ok h) :
    (∀ c ∈ host, isDelimiter c = false) ∧
      ∀ rest, hostEnd false (host ++ ':' :: rest) = (host, ':' :: rest) := by
  rcases Host.shape_of_read named with plain | ⟨inner, rfl, digits⟩
  · refine ⟨fun c among => ?_, hostEnd_of_plain plain⟩
    simpa using (Bool.or_eq_false_iff.mp (plain c among)).2
  · refine ⟨fun c among => ?_, hostEnd_of_bracketed digits⟩
    rcases List.mem_cons.mp among with rfl | among
    · decide
    rcases List.mem_append.mp among with within | last
    · exact isDelimiter_of_inAddress (digits c within)
    · obtain rfl := List.mem_singleton.mp last
      decide

/-- A bracket that is not closed before the port makes no host. -/
theorem read_of_open {host : List Char} (bracket : '[' ∈ host) (port : Nat) :
    ∃ e, Host.read (host ++ ':' :: Nat.toDigits 10 port) = .error e := by
  cases named : Host.read (host ++ ':' :: Nat.toDigits 10 port) with
  | error e => exact ⟨e, rfl⟩
  | ok h =>
    rcases Host.shape_of_read named with none | ⟨inner, text, -⟩
    · exact absurd (none '[' (by simp [bracket])) (by decide)
    · have last : (host ++ ':' :: Nat.toDigits 10 port).getLast? = some ']' := by
        rw [text, ← List.cons_append]
        exact List.getLast?_concat
      rw [List.getLast?_append_cons] at last
      rcases List.mem_cons.mp (List.mem_of_getLast? last) with colon | digit
      · exact absurd colon (by decide)
      · exact absurd (isDigit_of_mem_toDigits digit) (by decide)

/-- A host by itself and a port are read back from the text of their URL. -/
theorem parse_addressText {host : List Char} {h : Host} (named : Host.read host = .ok h)
    {port : Nat} (small : port ≤ 65535) :
    parse (String.ofList (addressText host port)) = .ok (ofAddress h port) := by
  have filled : host.isEmpty = false := by
    refine List.isEmpty_eq_false_iff.mpr fun empty => ?_
    have unnamed : Host.read [] = .error .emptyHost := by decide
    cases unnamed.symm.trans (empty ▸ named)
  obtain ⟨plain, found⟩ := plain_of_read named
  rw [parse_addressText_eq plain, authority_of_plain (plain_append_port plain port), found]
  simp only [filled, named, portAfter_toDigits small]
  rfl

/-- What is no host by itself is not read back, unless it has delimiters. -/
theorem parse_addressText_of_error {host : List Char} {e : UrlError}
    (unnamed : Host.read host = .error e) (plain : ∀ c ∈ host, isDelimiter c = false) (port : Nat) :
    ∃ e', parse (String.ofList (addressText host port)) = .error e' := by
  rw [parse_addressText_eq plain, authority_of_plain (plain_append_port plain port)]
  obtain found | ⟨front, back, rfl, found⟩ | ⟨found, opened⟩ :=
    hostEnd_cases false host (Nat.toDigits 10 port) fun c => isDigit_of_mem_toDigits
  · rw [found]
    simp only [unnamed]
    split
    · exact ⟨_, rfl⟩
    · exact ⟨_, rfl⟩
  · -- The host has a port of its own, and what follows it is no number.
    have noSlash : '\\' ∉ back := fun among =>
      notMem_of_plain plain (by decide : isDelimiter '\\') (by simp [among])
    rw [found]
    simp only [portAfter_of_colon _ _ noSlash]
    split
    · exact ⟨_, rfl⟩
    · cases Host.read front with
      | error e => exact ⟨e, rfl⟩
      | ok h => exact ⟨_, rfl⟩
  · -- The bracket is still open: what is read as a host ends in the port.
    have bracket : '[' ∈ host := by simpa using opened
    obtain ⟨e', fails⟩ := read_of_open bracket port
    rw [found]
    simp only [fails]
    split
    · exact ⟨_, rfl⟩
    · exact ⟨_, rfl⟩

end Url

end GraphIngest
