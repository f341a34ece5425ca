/-!
# Blank characters

## Main definitions

* `Blank.isBlank`: whether a character has the Unicode property `White_Space`.
* `Blank.allBlank`: whether a text is empty or blank throughout.
* `Blank.trimLine`: a text without the spaces and tabs around it.
-/

namespace GraphIngest

namespace Blank

/-- Whether a character has the Unicode property `White_Space`. -/
def isBlank (c : Char) : Bool :=
  let n := c.toNat
  (9 ≤ n && n ≤ 13) || n = 0x20 || n = 0x85 || n = 0xA0 || n = 0x1680 ||
  (0x2000 ≤ n && n ≤ 0x200A) || n = 0x2028 || n = 0x2029 || n = 0x202F || n = 0x205F || n = 0x3000

def allBlank (s : String) : Bool := s.toList.all isBlank

/-- Whether a character is a blank inside a line. -/
def isLineBlank (c : Char) : Bool := c = ' ' || c = '\t'

/-- A text without the spaces and tabs around it. -/
def trimLine (cs : List Char) : List Char :=
  ((cs.dropWhile isLineBlank).reverse.dropWhile isLineBlank).reverse

end Blank

end GraphIngest
