import GraphIngest.Toml.Scalar
import GraphIngest.Toml.Table

/-!
# Reading TOML

## Main definitions

* `Toml.value`: a value, which may hold others to a limited depth.
* `Toml.read?`: the table that a document defines.
-/

namespace GraphIngest

namespace Toml

/-! ## Values -/

/-- The rest of a list of items, each of which is read by a reader: `after` reads what stands
between an item and its comma. A comma may be the last thing before the end only if `trailing`. -/
def items (read : TomlReader α) (skip : List Char → List Char) (close : Char) (trailing : Bool)
    (cs : List Char) : Option (List α × List Char) :=
  match read cs with
  | none => none
  | some (v, rest) =>
    match skip rest with
    | [] => none
    | c :: rest =>
      if c = close then some ([v], rest)
      else if c = ',' then
        match trailing, mark close (skip rest) with
        | true, some rest => some ([v], rest)
        | _, _ =>
          if (skip rest).length < cs.length then
            (items read skip close trailing (skip rest)).map fun r => (v :: r.1, r.2)
          else none
      else none
termination_by cs.length

/-- Items up to a closing mark, or none at all. -/
def enclosed (read : TomlReader α) (skip : List Char → List Char) (close : Char) (trailing : Bool)
    (cs : List Char) : Option (List α × List Char) :=
  match mark close (skip cs) with
  | some rest => some ([], rest)
  | none => items read skip close trailing (skip cs)

/-- A key path, an equals sign and a value. -/
def definition (value : TomlReader TomlItem) (cs : List Char) :
    Option ((List String × String × TomlItem) × List Char) := do
  let ((path, name), rest) ← keyPath cs
  let rest ← mark '=' (skipBlank rest)
  let (v, rest) ← value (skipBlank rest)
  return ((path, name, v), rest)

/-- A value that holds others to so many levels. -/
def value : (room : Nat) → TomlReader TomlItem
  | _, [] => none
  | 0, c :: rest =>
    if c = '[' ∨ c = '\x7b' then none
    else (scalar (c :: rest)).map fun r => (.scalar r.1, r.2)
  | room + 1, c :: rest =>
    if c = '[' then
      (enclosed (value room) skipLines ']' true rest).map fun r => (.array r.1, r.2)
    else if c = '\x7b' then do
      let (ds, rest) ← enclosed (definition (value room)) skipBlank '\x7d' false rest
      return (.table .braces (← TomlEntries.ofDefinitions? ds), rest)
    else (scalar (c :: rest)).map fun r => (.scalar r.1, r.2)

/-! ## Documents -/

/-- A header between brackets. -/
def header (cs : List Char) : Option (TomlStatement × List Char) :=
  match cs with
  | '[' :: '[' :: rest => do
    let ((path, name), rest) ← keyPath rest
    let rest ← mark ']' (← mark ']' rest)
    return (.repeatedHeader path name, rest)
  | '[' :: rest => do
    let ((path, name), rest) ← keyPath rest
    return (.header path name, ← mark ']' rest)
  | _ => none

/-- One statement. -/
def statement (cs : List Char) : Option (TomlStatement × List Char) :=
  if cs.head? = some '[' then header cs
  else
    (definition (value greatestDepth) cs).map fun r => (.define r.1.1 r.1.2.1 r.1.2.2, r.2)

/-- All statements of a text; each stands on lines of its own. -/
def statements (cs : List Char) : Option (List TomlStatement) :=
  match skipLines cs with
  | [] => some []
  | c :: rest => do
    let (s, after) ← statement (c :: rest)
    let after ← lineEnd after
    if after.length < cs.length then
      return s :: (← statements after)
    else none
termination_by cs.length

/-- What follows a byte order mark, if the text begins with one. -/
def skipOrderMark : List Char → List Char
  | '\uFEFF' :: rest => rest
  | cs => cs

/-- The table that a document defines. -/
def read? (s : String) : Option TomlEntries := do
  TomlEntries.ofStatements? (← statements (skipOrderMark s.toList))

end Toml

end GraphIngest
