import GraphIngest.Text.Composition
import GraphIngest.Text.Direction
import GraphIngest.Text.Joining
import GraphIngest.Url.Domain.Form
import GraphIngest.Url.Punycode

/-!
# Labels of domains

A domain consists of labels. A label that is not ASCII has an ASCII text as well, which begins with
a mark.

## Main definitions

* `DomainLabel`: the characters of a label and its ASCII text.
* `DomainLabel.read?`: the label with some characters or with some ASCII text.
* `DomainLabel.fitsDirections`: whether a label may stand in a domain with letters that are written
  from right to left.
-/

namespace GraphIngest

/-- One label of a domain. -/
structure DomainLabel where
  /-- The characters, each in its form for domains. -/
  plain : List Char
  /-- The text in ASCII. -/
  text : List Char
  deriving DecidableEq, Repr, Inhabited

namespace DomainLabel

/-- What the ASCII text of a label begins with that is not ASCII. -/
def mark : List Char := ['x', 'n', '-', '-']

def isAscii (cs : List Char) : Bool := cs.all (·.toNat < 0x80)

/-! ## Joiners -/

/-- With which neighbours the first character joins that comes between its neighbours. -/
def neighbour (cs : List Char) : Joining :=
  ((cs.map Joining.of).find? (· ≠ .transparent)).getD .none

/-- Whether a joiner may stand between two texts, the first of them in reverse. After a sign that
silences a vowel both joiners may. One of them keeps letters from joining, and may stand between
letters that would join. -/
def mayJoin (joiner : Char) (before after : List Char) : Bool :=
  before.head?.any (CombiningClass.of · = CombiningClass.virama) ||
    (joiner.toNat = 0x200C && (neighbour before).joinsAfter && (neighbour after).joinsBefore)

/-- Whether all joiners of a text may stand where they stand, after another text in reverse. -/
def joinersFit (before : List Char) : List Char → Bool
  | [] => true
  | c :: rest =>
    (!DomainForm.isJoiner c || mayJoin c before rest) && joinersFit (c :: before) rest

/-- Whether a label with some characters may exist. -/
def isWellFormed (plain : List Char) : Bool :=
  !plain.head?.any Mark.isMark && joinersFit [] plain

/-! ## Reading -/

/-- How many characters of a label are coded at most. -/
def longestPlain : Nat := 1000

/-- How many characters a label is coded in at most. -/
def longestCoded : Nat := 2000

/-- The label whose ASCII text is the mark with something after it. Only a label that is not ASCII,
and whose characters have their forms already, has such a text. -/
def ofCoded? (coded : List Char) : Option DomainLabel := do
  if !isAscii coded ∨ longestCoded < coded.length then none
  let plain ← Punycode.decode? coded
  if isAscii plain ∨ mark.isPrefixOf plain ∨ !isWellFormed plain ∨
      plain.any (fun c => DomainForm.of? c ≠ some [c]) ∨ Composition.compose plain ≠ plain then none
  return ⟨plain, mark ++ coded⟩

/-- The label of characters that have their forms. -/
def read? (cs : List Char) : Option DomainLabel :=
  if mark.isPrefixOf cs then ofCoded? (cs.drop mark.length)
  else if isAscii cs then some ⟨cs, cs⟩
  else if cs.length ≤ longestPlain ∧ isWellFormed cs then some ⟨cs, mark ++ Punycode.encode cs⟩
  else none

/-! ## Directions -/

/-- Whether a label has characters that are written from right to left. -/
def isRightToLeft (l : DomainLabel) : Bool :=
  l.plain.any fun c => [.right, .arabicNumber].contains (Direction.of c)

/-- Whether a label may stand in a domain with letters that are written from right to left. It
begins with a letter, has no letters of the other direction, and ends with a letter or a number;
letters from right to left take one kind of numbers. -/
def fitsDirections (l : DomainLabel) : Bool :=
  let all := l.plain.map Direction.of
  let last := (all.reverse.dropWhile (· = .mark)).head?
  match all.head? with
  | none => true
  | some .left =>
    all.all ([.left, .europeanNumber, .neutral, .mark].contains ·) &&
      last.any ([.left, .europeanNumber].contains ·)
  | some .right =>
    !all.contains .left && last.any ([.right, .europeanNumber, .arabicNumber].contains ·) &&
      !(all.contains .europeanNumber && all.contains .arabicNumber)
  | some _ => false

end DomainLabel

end GraphIngest
