import GraphIngest.Text.Symbol

/-!
# Files

## Main definitions

* `Place`: the names that lead to a file or a directory.
* `Disk`: files and directories by their places.
* `Disk.exists`, `Disk.read`, `Disk.write`: what can be done with a path.
* `FileError`: why it cannot.
-/

namespace GraphIngest

/-- The names that lead to a file or a directory: from one directory on, or, if the first of them is
a slash, from the root on. Above the directory are places whose names are two points each. -/
abbrev Place := List String

namespace Place

/-- The root of all files. -/
def root : Place := ["/"]

/-- Whether a place is the root, the directory that places are seen from, or above that. -/
def isOrigin (p : Place) : Bool := p = root || p.all (· = "..")

/-- One place up. -/
def up (p : Place) : Place :=
  if p = root then root else if p.isOrigin then p ++ [".."] else p.dropLast

end Place

/-- What a path leads to. -/
inductive DiskEntry where
  | file (content : List Symbol)
  | directory
  deriving DecidableEq, Repr, Inhabited

/-- Files and directories by their places. -/
structure Disk where
  entries : List (Place × DiskEntry)
  deriving Repr, Inhabited

/-- Why a file cannot be read or written. -/
inductive FileError where
  | notFound
  | notDirectory
  | isDirectory
  /-- Its content is no text. -/
  | notText
  /-- No file can have the name. -/
  | badName
  | nameTooLong
  deriving DecidableEq, Repr, Inhabited

def FileError.message : FileError → String
  | notFound => "No such file or directory (os error 2)"
  | notDirectory => "Not a directory (os error 20)"
  | isDirectory => "Is a directory (os error 21)"
  | notText => "stream did not contain valid UTF-8"
  | badName => "file name contained an unexpected NUL byte"
  | nameTooLong => "File name too long (os error 36)"

namespace Disk

/-- So many bytes a name has at most. -/
def longestName : Nat := 255

/-- So many bytes a path has at most. -/
def longestPath : Nat := 4095

/-- The names that a path leads through. -/
def names (path : String) : List String := (path.splitOn "/").filter (· ≠ "")

/-- Where a path begins. -/
def origin (path : String) : Place := if path.startsWith "/" then Place.root else []

/-- What is at a place. -/
def entry? (d : Disk) (p : Place) : Option DiskEntry :=
  if p.isOrigin then some .directory else d.entries.lookup p

/-- Where a name leads from a directory. -/
def enter (p : Place) (name : String) : Except FileError Place :=
  if name = "." then .ok p
  else if name = ".." then .ok p.up
  else if longestName < name.utf8ByteSize then .error .nameTooLong
  else .ok (p ++ [name])

/-- Go through directories, from one of them on. -/
def walk (d : Disk) (p : Place) : List String → Except FileError Place
  | [] => .ok p
  | n :: rest => do
    let p ← enter p n
    match d.entry? p with
    | some .directory => walk d p rest
    | some (.file _) => throw .notDirectory
    | none => throw .notFound

/-- The directory in which the last name of a path is looked up, and the name. -/
def locate (d : Disk) (path : String) : Except FileError (Place × String) := do
  if path = "" then throw .notFound
  if path.contains (Char.ofNat 0) then throw .badName
  if longestPath < path.utf8ByteSize then throw .nameTooLong
  let ns := names path
  return (← d.walk (origin path) ns.dropLast, ns.getLast?.getD ".")

/-- A path that ends in a slash leads to a directory only. -/
def wantsDirectory (path : String) : Bool := path.endsWith "/"

/-- What a path leads to. -/
def find (d : Disk) (path : String) : Except FileError DiskEntry := do
  let (parent, name) ← d.locate path
  match d.entry? (← enter parent name) with
  | none => throw .notFound
  | some (.file c) => if wantsDirectory path then throw .notDirectory else return .file c
  | some .directory => return .directory

/-- Whether a path leads to anything. -/
def «exists» (d : Disk) (path : String) : Bool := (d.find path).toBool

/-- The text of a file. -/
def read (d : Disk) (path : String) : Except FileError String := do
  match ← d.find path with
  | .directory => throw .isDirectory
  | .file c =>
    match Symbol.text? c with
    | some s => return s
    | none => throw .notText

/-- Write a file, whether it was there before or not. -/
def write (d : Disk) (path text : String) : Except FileError Disk := do
  let (parent, name) ← d.locate path
  if wantsDirectory path then throw .isDirectory
  let p ← enter parent name
  if d.entry? p = some .directory then throw .isDirectory
  let file : DiskEntry := .file (Symbol.ofString text)
  if (d.entries.lookup p).isSome then
    return ⟨d.entries.map fun e => if e.1 = p then (p, file) else e⟩
  else return ⟨d.entries ++ [(p, file)]⟩

end Disk

end GraphIngest
