import GraphIngest.Decimal.Reader

/-!
# TOML values

## Main definitions

* `TomlScalar`: a value without parts.
* `TomlItem`: what a name stands for in a table. Tables differ in how they came to be, since that
  decides what may be added to them later.
-/

namespace GraphIngest

inductive TomlScalar where
  | text (value : String)
  | int (value : Int)
  | float (value : FloatValue)
  | bool (value : Bool)
  /-- A date, a time, or both. -/
  | date
  deriving DecidableEq, Repr, Inhabited

/-- How a table came to be. -/
inductive TableKind where
  /-- By its own header. -/
  | header
  /-- As a part of a longer header. -/
  | implied
  /-- As a part of a dotted key. -/
  | dotted
  /-- In braces. -/
  | braces
  deriving DecidableEq, Repr, Inhabited

/-- What a name stands for. -/
inductive TomlItem where
  | scalar (value : TomlScalar)
  | array (items : List TomlItem)
  | table (kind : TableKind) (entries : List (String × TomlItem))
  /-- Tables under one repeated header, each with its entries. -/
  | tables (rows : List (List (String × TomlItem)))
  deriving Repr, Inhabited

/-- The entries of a table in their order. -/
abbrev TomlEntries := List (String × TomlItem)

end GraphIngest
