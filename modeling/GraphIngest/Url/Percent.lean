import GraphIngest.Text.Digit

/-!
# Percent encoding

A byte that may not stand in a part of a URL is written as a percent sign and two hexadecimal
digits. Which characters that concerns depends on the part.

## Main definitions

* `Percent.fragmentSet`, `Percent.pathSet`, …: the characters that are encoded in a part.
* `Percent.encode`: a text with those characters encoded.
* `Percent.decode`: the bytes that a text stands for.
-/

namespace GraphIngest

namespace Percent

/-! ## What is encoded -/

/-- Controls, and everything beyond ASCII. -/
def controlSet (c : Char) : Bool := c.toNat < 0x20 || 0x7E < c.toNat

def fragmentSet (c : Char) : Bool :=
  controlSet c || c = ' ' || c = '"' || c = '<' || c = '>' || c.toNat = 0x60

def pathSet (c : Char) : Bool := fragmentSet c || c = '#' || c = '?' || c = '\x7b' || c = '\x7d'

/-- In a segment of its own a slash is no separator; in a special URL neither is a backslash. -/
def segmentSet (special : Bool) (c : Char) : Bool :=
  pathSet c || c = '/' || c = '%' || (special && c = '\\')

def querySet (special : Bool) (c : Char) : Bool :=
  controlSet c || c = ' ' || c = '"' || c = '#' || c = '<' || c = '>' || (special && c = '\'')

def userSet (c : Char) : Bool :=
  pathSet c || c = '/' || c = ':' || c = ';' || c = '=' || c = '@' || c = '[' || c = '\\' ||
  c = ']' || c = '^' || c = '|'

/-! ## Encoding and decoding -/

/-- A hexadecimal digit, upper case. -/
def hexDigit (n : Nat) : Char := (Nat.digitChar n).toUpper

def encodeByte (b : UInt8) : List Char :=
  ['%', hexDigit (b.toNat / 16), hexDigit (b.toNat % 16)]

def encodeChar (encoded : Char → Bool) (c : Char) : List Char :=
  if encoded c then (String.utf8EncodeChar c).flatMap encodeByte else [c]

/-- A text with some of its characters encoded. -/
def encode (encoded : Char → Bool) (cs : List Char) : List Char := cs.flatMap (encodeChar encoded)

/-- The bytes that a text stands for. A percent sign without two digits stands for itself. -/
def decode : List Char → List UInt8
  | '%' :: a :: b :: rest =>
    match Digit.value? a, Digit.value? b with
    | some m, some n => UInt8.ofNat (16 * m + n) :: decode rest
    | _, _ => String.utf8EncodeChar '%' ++ decode (a :: b :: rest)
  | c :: rest => String.utf8EncodeChar c ++ decode rest
  | [] => []

end Percent

end GraphIngest
