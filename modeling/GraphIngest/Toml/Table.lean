import GraphIngest.Toml.Value

/-!
# Tables of TOML

A document defines its tables piece by piece. No name may be defined twice, and what was defined in
one way is not extended in another.

## Main definitions

* `TomlEntries.modify?`: change the table that a path leads to.
* `TomlEntries.define?`: define a name.
* `TomlStatement`: one piece of a document.
* `TomlEntries.ofStatements?`: the table that all pieces define.
-/

namespace GraphIngest

namespace TomlEntries

/-- Put another item in the place of a name. -/
def replace (name : String) (item : TomlItem) (es : TomlEntries) : TomlEntries :=
  es.map fun e => if e.1 = name then (name, item) else e

/-- Change the table that a path leads to, and give back what the change gives. Tables that are
missing on the way are made. A dotted key leads through no table that has its own header; a repeated
header stands for its last table. -/
def modify? (dotted : Bool) (change : TableKind → TomlEntries → Option (TomlEntries × α)) :
    (path : List String) → TableKind → TomlEntries → Option (TomlEntries × α)
  | [], kind, es => change kind es
  | name :: path, _, es =>
    match es.lookup name with
    | none => do
      let kind := if dotted then .dotted else .implied
      let (sub, a) ← modify? dotted change path kind []
      return (es ++ [(name, .table kind sub)], a)
    | some (.table kind sub) => do
      if kind = .braces ∨ (dotted ∧ kind = .header) then none
      let (sub, a) ← modify? dotted change path kind sub
      return (replace name (.table kind sub) es, a)
    | some (.tables rows) => do
      let last ← rows.getLast?
      let (last, a) ← modify? dotted change path .header last
      return (replace name (.tables (rows.dropLast ++ [last])) es, a)
    | some (.scalar _) | some (.array _) => none

/-- Define a name in the table that a dotted key leads to. A table that was not made by dotted keys
takes no definitions from them. -/
def define? (path : List String) (name : String) (item : TomlItem) (es : TomlEntries) :
    Option TomlEntries :=
  let change (kind : TableKind) (es : TomlEntries) : Option (TomlEntries × Unit) :=
    if (kind = .dotted ↔ path = []) ∨ (es.lookup name).isSome then none
    else some (es ++ [(name, item)], ())
  (modify? true change path .header es).map (·.1)

/-- The table of some definitions in braces. -/
def ofDefinitions? (definitions : List (List String × String × TomlItem)) : Option TomlEntries :=
  definitions.foldlM (fun es d => define? d.1 d.2.1 d.2.2 es) []

end TomlEntries

/-- One piece of a document. -/
inductive TomlStatement where
  | define (path : List String) (name : String) (item : TomlItem)
  | header (path : List String) (name : String)
  | repeatedHeader (path : List String) (name : String)
  deriving Repr, Inhabited

/-- A document up to some statement: what was completed, and the table that is being filled. The
table has no place of its own until the first header. -/
structure TomlState where
  root : TomlEntries
  place : Option (List String × String)
  repeated : Bool
  current : TomlEntries
  deriving Repr, Inhabited

namespace TomlState

def start : TomlState := ⟨[], none, false, []⟩

/-- Put the current table in its place. -/
def settle? (s : TomlState) : Option TomlEntries :=
  match s.place with
  | none => some s.current
  | some (path, name) =>
    let change (_ : TableKind) (es : TomlEntries) : Option (TomlEntries × Unit) :=
      match s.repeated, es.lookup name with
      | false, none => some (es ++ [(name, .table .header s.current)], ())
      | true, some (.tables rows) =>
        some (TomlEntries.replace name (.tables (rows ++ [s.current])) es, ())
      | _, _ => none
    (TomlEntries.modify? false change path .header s.root).map (·.1)

/-- Begin the table of a header. If it was implied before, it keeps what it has. -/
def begin? (root : TomlEntries) (path : List String) (name : String) : Option TomlState := do
  let change (_ : TableKind) (es : TomlEntries) : Option (TomlEntries × TomlEntries) :=
    match es.lookup name with
    | none => some (es, [])
    | some (.table .implied sub) => some (es.filter (·.1 ≠ name), sub)
    | some _ => none
  let (root, current) ← TomlEntries.modify? false change path .header root
  return ⟨root, some (path, name), false, current⟩

/-- Begin one more table of a repeated header. -/
def beginRepeated? (root : TomlEntries) (path : List String) (name : String) :
    Option TomlState := do
  let change (_ : TableKind) (es : TomlEntries) : Option (TomlEntries × Unit) :=
    match es.lookup name with
    | none => some (es ++ [(name, .tables [])], ())
    | some (.tables _) => some (es, ())
    | some _ => none
  let (root, _) ← TomlEntries.modify? false change path .header root
  return ⟨root, some (path, name), true, []⟩

/-- One more statement. -/
def step? (s : TomlState) : TomlStatement → Option TomlState
  | .define path name item => do
    return { s with current := ← TomlEntries.define? path name item s.current }
  | .header path name => do begin? (← s.settle?) path name
  | .repeatedHeader path name => do beginRepeated? (← s.settle?) path name

end TomlState

/-- The table that all statements define. -/
def TomlEntries.ofStatements? (statements : List TomlStatement) : Option TomlEntries := do
  let s ← statements.foldlM TomlState.step? .start
  s.settle?

end GraphIngest
