/-!
# Symbols of a byte text

A body arrives as bytes and need not be UTF-8. Readers work on *symbols*: a character, or a run of
bytes that starts no character. A text that is a string has characters only.

## Main definitions

* `Symbol`: a character or a broken run of bytes.
* `Symbol.ofBytes`: the symbols of a byte list; a broken run is as long as it could still have
  been completed, as in the replacement practice of the Unicode standard.
* `Symbol.ofString`: the symbols of a string.
* `Symbol.lossy`: the text with one replacement character for each broken run.
-/

namespace GraphIngest

/-- One unit of a byte text. -/
inductive Symbol where
  /-- A character. -/
  | char (c : Char)
  /-- So many bytes that start a character and do not complete it. -/
  | broken (bytes : Nat)
  deriving DecidableEq, Repr, Inhabited

namespace Symbol

/-- How many bytes the symbol takes. -/
def size : Symbol → Nat
  | char c => c.utf8Size
  | broken n => n

/-- How many bytes a text takes. -/
def byteLength : List Symbol → Nat
  | [] => 0
  | s :: rest => s.size + byteLength rest

/-! ## Decoding -/

/-- Whether a byte continues a character. -/
def isContinuation (b : UInt8) : Bool := 0x80 ≤ b && b ≤ 0xBF

/-- How many bytes a character takes that starts with this byte; zero if none does. -/
def sequenceLength (b : UInt8) : Nat :=
  if b ≤ 0x7F then 1
  else if 0xC2 ≤ b && b ≤ 0xDF then 2
  else if 0xE0 ≤ b && b ≤ 0xEF then 3
  else if 0xF0 ≤ b && b ≤ 0xF4 then 4
  else 0

/-- Whether the second byte may follow the first: overlong forms, surrogates and numbers above the
last code point are excluded here, so that all further bytes are plain continuations. -/
def secondAllowed (first second : UInt8) : Bool :=
  if first = 0xE0 then 0xA0 ≤ second && second ≤ 0xBF
  else if first = 0xED then 0x80 ≤ second && second ≤ 0x9F
  else if first = 0xF0 then 0x90 ≤ second && second ≤ 0xBF
  else if first = 0xF4 then 0x80 ≤ second && second ≤ 0x8F
  else isContinuation second

/-- The payload bits of a continuation byte. -/
def low (b : UInt8) : Nat := b.toNat % 64

/-- The symbol that a byte starts, and how many of the bytes after it belong to the symbol. -/
def start (b₀ : UInt8) (rest : List UInt8) : Symbol × Nat :=
  match sequenceLength b₀, rest with
  | 0, _ => (broken 1, 0)
  | 1, _ => (char (Char.ofNat b₀.toNat), 0)
  | _, [] => (broken 1, 0)
  | n, b₁ :: rest =>
    if !secondAllowed b₀ b₁ then (broken 1, 0)
    else if n = 2 then (char (Char.ofNat (b₀.toNat % 32 * 64 + low b₁)), 1)
    else
      match rest with
      | [] => (broken 2, 1)
      | b₂ :: rest =>
        if !isContinuation b₂ then (broken 2, 1)
        else if n = 3 then
          (char (Char.ofNat (b₀.toNat % 16 * 4096 + low b₁ * 64 + low b₂)), 2)
        else
          match rest with
          | [] => (broken 3, 2)
          | b₃ :: _ =>
            if !isContinuation b₃ then (broken 3, 2)
            else
              (char (Char.ofNat
                (b₀.toNat % 8 * 262144 + low b₁ * 4096 + low b₂ * 64 + low b₃)), 3)

/-- The symbols of a byte list after its first `skip` bytes. -/
def ofBytesAfter : (skip : Nat) → List UInt8 → List Symbol
  | _, [] => []
  | skip + 1, _ :: rest => ofBytesAfter skip rest
  | 0, b :: rest => (start b rest).1 :: ofBytesAfter (start b rest).2 rest

/-- The symbols of a byte list. -/
def ofBytes (bytes : List UInt8) : List Symbol := ofBytesAfter 0 bytes

/-- The symbols of a string are its characters. -/
def ofString (s : String) : List Symbol := s.toList.map char

/-! ## Back to text -/

/-- The character shown for a symbol. -/
def shown : Symbol → Char
  | char c => c
  | broken _ => '\uFFFD'

/-- The text with one replacement character for each broken run. -/
def lossy (text : List Symbol) : String := String.ofList (text.map shown)

/-- The text, if every symbol is a character. -/
def text? (text : List Symbol) : Option String :=
  (text.mapM fun | char c => some c | broken _ => none).map String.ofList

end Symbol

end GraphIngest
