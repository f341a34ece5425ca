/-!
# Parts between separators

## Main definitions

* `Separated.split`: the parts of a text between a separator.
-/

namespace GraphIngest

namespace Separated

/-- The parts of a text between a separator. -/
def split (separator : Char) : List Char → List (List Char)
  | [] => [[]]
  | c :: rest =>
    if c = separator then [] :: split separator rest
    else
      match split separator rest with
      | part :: parts => (c :: part) :: parts
      | [] => [[c]]

@[simp]
theorem split_nil (separator : Char) : split separator [] = [[]] := rfl

theorem split_ne_nil (separator : Char) (cs : List Char) : split separator cs ≠ [] := by
  cases cs with
  | nil => simp
  | cons c rest =>
    unfold split
    split
    · simp
    · split <;> simp

end Separated

end GraphIngest
