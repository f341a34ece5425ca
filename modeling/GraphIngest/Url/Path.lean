import GraphIngest.Url.Host

/-!
# Paths

A path is a list of segments. Segments of dots are not kept: they lead to the same place or one
place up.

## Main definitions

* `Path.resolve`: the segments that raw segments lead to, from a path on.
* `Path.append`: a path with more segments, each of which is one name whatever characters it has.
* `Path.render`: the text of a path.
-/

namespace GraphIngest

/-- The segments of a path, encoded. No segments at all are an empty path; one empty segment is the
root. -/
abbrev Path := List (List Char)

namespace Path

/-- A segment without regard to how its points are written. -/
def points : List Char → List Char
  | '%' :: '2' :: 'e' :: rest => '.' :: points rest
  | '%' :: '2' :: 'E' :: rest => '.' :: points rest
  | c :: rest => c :: points rest
  | [] => []

/-- Whether a segment leads to the same place. -/
def isHere (segment : List Char) : Bool := points segment = ['.']

/-- Whether a segment leads one place up. -/
def isUp (segment : List Char) : Bool := points segment = ['.', '.']

/-- Whether a segment names a drive. -/
def isDrive : List Char → Bool
  | [c, d] => c.isAlpha && (d = ':' || d = '|')
  | _ => false

/-- One place up. There is no way up from the root or from a drive. -/
def up (p : Path) : Path :=
  match p.getLast? with
  | some last => if isDrive last then p else p.dropLast
  | none => p

/-- Follow one segment that others come after. -/
def enter (p : Path) (segment : List Char) : Path :=
  if isUp segment then p.up
  else if isHere segment then p
  else p ++ [segment]

/-- Follow the last segment: where it leads is a place of its own, with an empty name. -/
def finish (p : Path) (segment : List Char) : Path :=
  if isUp segment then p.up ++ [[]]
  else if isHere segment then p ++ [[]]
  else p ++ [segment]

/-- Follow segments from a path on. -/
def resolve : Path → (segments : List (List Char)) → Path
  | p, [] => p
  | p, [last] => p.finish last
  | p, s :: rest => resolve (p.enter s) rest

/-- The parts of a text between slashes; in a special URL a backslash is one, too. -/
def splitRaw (special : Bool) : List Char → List (List Char)
  | [] => [[]]
  | c :: rest =>
    if c = '/' || (special && c = '\\') then [] :: splitRaw special rest
    else
      match splitRaw special rest with
      | part :: parts => (c :: part) :: parts
      | [] => [[c]]

/-- Follow the text of a relative path, whose first slash is not part of it. -/
def follow (special : Bool) (p : Path) (text : List Char) : Path :=
  p.resolve ((splitRaw special text).map (Percent.encode Percent.pathSet))

/-! ## Names as segments -/

/-- Characters that leave no trace in a URL. -/
def isSkipped (c : Char) : Bool := c = '\t' || c = '\n' || c = '\r'

/-- A path without the empty segment that a slash at its end leaves. -/
def popIfEmpty (p : Path) : Path :=
  if 2 ≤ p.length ∧ p.getLast? = some [] then p.dropLast else p

/-- The path that a new segment comes after: the root gives way to it. -/
def beforeAppend (p : Path) : Path := if p = [[]] then [] else p

/-- Append one name as a segment. Whatever would separate segments is encoded. Names of one or two
points are left out. -/
def appendName (special : Bool) (p : Path) (name : String) : Path :=
  if name = "." ∨ name = ".." then p
  else
    p.beforeAppend.finish
      (Percent.encode (Percent.segmentSet special) (name.toList.filter (!isSkipped ·)))

/-- A path with names appended to it. -/
def append (special : Bool) (p : Path) (names : List String) : Path :=
  names.foldl (appendName special) p.popIfEmpty

/-! ## Text -/

/-- The text of a path. -/
def render (p : Path) : List Char := p.flatMap ('/' :: ·)

end Path

end GraphIngest
