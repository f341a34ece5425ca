import GraphIngest.Text.Shown

/-!
# Values that do not fit

A reader of typed values says what it found and what it expected. The wording is the same for every
format that values are read from.

## Main definitions

* `Found`: what stood in a place.
* `Mismatch`: why it does not fit there; `Mismatch.message` is its wording.
-/

namespace GraphIngest

/-- What was found where something else was expected. A floating-point number is named by its text,
since the format it was read from decides how that is written. -/
inductive Found where
  | null
  | bool (value : Bool)
  | int (value : Int)
  | float (text : String)
  | text (value : String)
  | sequence
  | map
  deriving DecidableEq, Repr, Inhabited

/-- A value that does not fit its place. -/
inductive Mismatch where
  | wrongType (found : Found) (expected : String)
  | wrongValue (found : Found) (expected : String)
  | wrongLength (count : Nat) (expected : String)
  | missingField (name : String)
  | duplicateField (name : String)
  | unknownVariant (name : String) (known : List String)
  deriving DecidableEq, Repr, Inhabited

/-- The words for what was found. -/
def Found.describe : Found → String
  | null => "null"
  | bool b => "boolean `" ++ toString b ++ "`"
  | int n => "integer `" ++ toString n ++ "`"
  | float s => "floating point `" ++ s ++ "`"
  | text s => "string " ++ Shown.quoted s
  | sequence => "sequence"
  | map => "map"

/-- Names in code marks, with commas between them. -/
def Mismatch.listed (names : List String) : String :=
  ", ".intercalate (names.map fun name => "`" ++ name ++ "`")

/-- The words for a mismatch. -/
def Mismatch.message : Mismatch → String
  | wrongType found expected => "invalid type: " ++ found.describe ++ ", expected " ++ expected
  | wrongValue found expected => "invalid value: " ++ found.describe ++ ", expected " ++ expected
  | wrongLength count expected => "invalid length " ++ toString count ++ ", expected " ++ expected
  | missingField name => "missing field `" ++ name ++ "`"
  | duplicateField name => "duplicate field `" ++ name ++ "`"
  | unknownVariant name known =>
    "unknown variant `" ++ name ++ "`, expected one of " ++ listed known

end GraphIngest
