import GraphIngest.Text.Symbol
import GraphIngest.Url.Domain
import GraphIngest.Url.Percent

/-!
# Hosts

## Main definitions

* `Host`: a domain, an address of either length, or an opaque name.
* `Host.read`, `Host.readOpaque`: the host that a text names.
* `Host.render`: the text of a host.
-/

namespace GraphIngest

/-- Why a text is no URL. -/
inductive UrlError where
  | relativeWithoutBase
  | emptyHost
  | invalidPort
  | invalidIpv4
  | invalidIpv6
  | invalidDomain
  | invalidDomainCharacter
  deriving DecidableEq, Repr, Inhabited

def UrlError.message : UrlError → String
  | relativeWithoutBase => "relative URL without a base"
  | emptyHost => "empty host"
  | invalidPort => "invalid port number"
  | invalidIpv4 => "invalid IPv4 address"
  | invalidIpv6 => "invalid IPv6 address"
  | invalidDomain => "invalid international domain name"
  | invalidDomainCharacter => "invalid domain character"

inductive Host where
  | domain (name : List Char)
  | ipv4 (address : Nat)
  /-- An address of eight sixteen-bit pieces. -/
  | ipv6 (pieces : List Nat)
  | opaqueName (name : List Char)
  deriving DecidableEq, Repr, Inhabited

namespace Host

/-! ## Numbers -/

/-- A part of an address of four bytes: decimal, octal after a zero, or hexadecimal after `0x`. -/
def ipv4Number? : List Char → Option Nat
  | [] => none
  | '0' :: 'x' :: digits => Digit.natOf? 16 digits
  | '0' :: 'X' :: digits => Digit.natOf? 16 digits
  | '0' :: d :: digits => Digit.natOf? 8 (d :: digits)
  | digits => Digit.natOf? 10 digits

/-- The labels of a domain; a point at the end separates nothing. -/
def labels (name : List Char) : List (List Char) :=
  match (Separated.split '.' name).reverse with
  | [] :: l :: rest => (l :: rest).reverse
  | parts => parts.reverse

/-- Whether a domain has to be an address, because its last label is a number. -/
def endsInNumber (name : List Char) : Bool :=
  match (Separated.split '.' name).reverse with
  | [] :: [] => false
  | [] :: last :: _ => isNumber last
  | last :: _ => isNumber last
  | [] => false
where
  isNumber (l : List Char) : Bool :=
    (!l.isEmpty && l.all Char.isDigit) || (ipv4Number? l).isSome

/-- The address that numbers stand for: the last of them fills all bytes that are left. -/
def ipv4OfNumbers? : (place : Nat) → List Nat → Option Nat
  | _, [] => none
  | place, [n] => if n < Nat.pow 256 (4 - place) then some n else none
  | place, n :: rest => do
    if 256 ≤ n then none
    return n * Nat.pow 256 (3 - place) + (← ipv4OfNumbers? (place + 1) rest)

def ipv4? (name : List Char) : Option Nat := do
  let parts := labels name
  if 4 < parts.length then none
  ipv4OfNumbers? 0 (← parts.mapM ipv4Number?)

/-! ## Addresses of eight pieces -/

/-- One piece: one to four hexadecimal digits. -/
def ipv6Piece? (cs : List Char) : Option Nat :=
  if 1 ≤ cs.length ∧ cs.length ≤ 4 then Digit.natOf? 16 cs else none

/-- One byte in decimal, without a zero in front. -/
def decimalByte? (cs : List Char) : Option Nat := do
  let n ← Digit.natOf? 10 cs
  if cs.isEmpty ∨ (cs.head? = some '0' ∧ 1 < cs.length) ∨ 255 < n then none else some n

/-- Two pieces that are written as four decimal bytes. -/
def embeddedIpv4? (cs : List Char) : Option (List Nat) := do
  match ← (Separated.split '.' cs).mapM decimalByte? with
  | [a, b, c, d] => some [256 * a + b, 256 * c + d]
  | _ => none

/-- Pieces between colons; only the last of them may be written as an address of four bytes. -/
def piecesOf? (embedded : Bool) : List (List Char) → Option (List Nat)
  | [] => some []
  | [last] =>
    match ipv6Piece? last with
    | some n => some [n]
    | none => if embedded then embeddedIpv4? last else none
  | p :: rest => do return (← ipv6Piece? p) :: (← piecesOf? embedded rest)

/-- The pieces in a text, which may be empty. -/
def pieces? (embedded : Bool) (cs : List Char) : Option (List Nat) :=
  if cs.isEmpty then some [] else piecesOf? embedded (Separated.split ':' cs)

/-- What stands before and after the first two colons in a row. -/
def splitGap : List Char → Option (List Char × List Char)
  | ':' :: ':' :: rest => some ([], rest)
  | c :: rest => (splitGap rest).map fun r => (c :: r.1, r.2)
  | [] => none

/-- The pieces of an address. A gap stands for at least one piece. -/
def ipv6? (cs : List Char) : Option (List Nat) := do
  match splitGap cs with
  | none =>
    let ps ← pieces? true cs
    if ps.length = 8 then some ps else none
  | some (left, right) =>
    let ls ← pieces? false left
    let rs ← pieces? true right
    if ls.length + rs.length ≤ 7 then
      some (ls ++ List.replicate (8 - (ls.length + rs.length)) 0 ++ rs)
    else none

/-! ## Reading -/

/-- The address between brackets. -/
def readBracketed (cs : List Char) : Except UrlError Host :=
  match cs.reverse with
  | ']' :: reversed =>
    match ipv6? reversed.reverse with
    | some ps => .ok (.ipv6 ps)
    | none => .error .invalidIpv6
  | _ => .error .invalidIpv6

/-- The host of a special URL. -/
def read : List Char → Except UrlError Host
  | '[' :: rest => readBracketed rest
  | cs =>
    match Symbol.text? (Symbol.ofBytes (Percent.decode cs)) with
    | none => .error .invalidDomain
    | some s =>
      match Domain.toAscii? s.toList with
      | none => .error .invalidDomain
      | some name =>
        if name.isEmpty then .error .emptyHost
        else if endsInNumber name then
          match ipv4? name with
          | some a => .ok (.ipv4 a)
          | none => .error .invalidIpv4
        else .ok (.domain name)

/-- Characters that no opaque name holds. -/
def isForbiddenOpaque (c : Char) : Bool :=
  [Char.ofNat 0, '\t', '\n', '\r', ' ', '#', '/', ':', '<', '>', '?', '@', '[', '\\', ']', '^',
    '|'].contains c

/-- The host of any other URL. -/
def readOpaque : List Char → Except UrlError Host
  | '[' :: rest => readBracketed rest
  | cs =>
    if cs.any isForbiddenOpaque then .error .invalidDomainCharacter
    else .ok (.opaqueName (Percent.encode Percent.controlSet cs))

/-! ## Text -/

def decimal (n : Nat) : List Char := Nat.toDigits 10 n

def ipv4Text (a : Nat) : List Char :=
  ['.'].intercalate ([a / 16777216, a / 65536 % 256, a / 256 % 256, a % 256].map decimal)

/-- How many pieces a list begins with that are zero. -/
def zeroRun (ps : List Nat) : Nat := (ps.takeWhile (· = 0)).length

/-- The longest run of zeros at this place or after it. -/
def longestRun : List Nat → Nat
  | [] => 0
  | p :: rest => max (zeroRun (p :: rest)) (longestRun rest)

def piecesText (ps : List Nat) : List Char := [':'].intercalate (ps.map (Nat.toDigits 16))

/-- The text of an address. The first of the longest runs of zeros becomes a gap, unless it is one
piece only. -/
def ipv6Text (ps : List Nat) : List Char :=
  let longest := longestRun ps
  if longest < 2 then piecesText ps else gapped longest [] ps
where
  gapped (longest : Nat) (before : List Nat) : List Nat → List Char
    | [] => piecesText before.reverse
    | p :: rest =>
      if zeroRun (p :: rest) = longest then
        piecesText before.reverse ++ [':', ':'] ++ piecesText ((p :: rest).drop longest)
      else gapped longest (p :: before) rest

/-- The text of a host. -/
def render : Host → List Char
  | domain name => name
  | ipv4 a => ipv4Text a
  | ipv6 ps => '[' :: (ipv6Text ps ++ [']'])
  | opaqueName name => name

def isEmpty : Host → Bool
  | opaqueName name => name.isEmpty
  | _ => false

end Host

end GraphIngest
