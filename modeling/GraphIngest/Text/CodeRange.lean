/-!
# Ranges of code points

Tables of characters list ranges of code points, each with its first and its last, in ascending
order.

## Main definitions

* `CodeRange.contains`: whether a code point lies in one of some ranges.
* `CodeRange.value?`: what is noted for the range that a code point lies in.
-/

namespace GraphIngest

namespace CodeRange

/-- Whether a code point lies in one of some ranges. -/
def contains (n : Nat) : List (Nat × Nat) → Bool
  | [] => false
  | (first, last) :: rest => if n < first then false else n ≤ last || contains n rest

/-- What is noted for the range that a code point lies in. -/
def value? (n : Nat) : List (Nat × Nat × α) → Option α
  | [] => none
  | (first, last, a) :: rest =>
    if n < first then none else if n ≤ last then some a else value? n rest

end CodeRange

end GraphIngest
