import GraphIngest.Url.Basic

/-!
# Reading URLs

A text is cut into the part before a question mark or a number sign, the query and the fragment. The
first part has a scheme, or is relative to another URL.

## Main definitions

* `Url.parse`: the URL of a text.
* `Url.join`: the URL of a text that may be relative to a URL.
-/

namespace GraphIngest

namespace Url

/-! ## Cutting a text -/

/-- Whether a character is dropped at both ends. -/
def isPadding (c : Char) : Bool := c.toNat ≤ 0x20

/-- A text without padding at its ends, and without the characters that leave no trace. -/
def clean (cs : List Char) : List Char :=
  let cs := ((cs.dropWhile isPadding).reverse.dropWhile isPadding).reverse
  cs.filter (!Path.isSkipped ·)

/-- A text before a mark, and what follows the mark if there is one. -/
def cut (mark : Char) : List Char → List Char × Option (List Char)
  | [] => ([], none)
  | c :: rest =>
    if c = mark then ([], some rest)
    else
      let r := cut mark rest
      (c :: r.1, r.2)

/-- The three parts of a text, the last two without their marks. -/
structure Parts where
  head : List Char
  query : Option (List Char)
  fragment : Option (List Char)
  deriving DecidableEq, Repr, Inhabited

def Parts.of (cs : List Char) : Parts :=
  let r := cut '#' cs
  let s := cut '?' r.1
  ⟨s.1, s.2, r.2⟩

/-- The query and the fragment of a text, encoded for a scheme. -/
def withParts (u : Url) (p : Parts) : Url :=
  { u with
    query := p.query.map (Percent.encode (Percent.querySet (isSpecialScheme u.scheme)))
    fragment := p.fragment.map (Percent.encode Percent.fragmentSet) }

/-- The rest of a scheme up to its colon, in lower case, and what follows it. -/
def schemeRest? : List Char → Option (List Char × List Char)
  | [] => none
  | ':' :: rest => some ([], rest)
  | c :: rest =>
    if c.isAlphanum || c = '+' || c = '-' || c = '.' then
      (schemeRest? rest).map fun r => (c.toLower :: r.1, r.2)
    else none

/-- The scheme of a text, and what follows it. -/
def scheme? : List Char → Option (List Char × List Char)
  | [] => none
  | c :: rest => if c.isAlpha then schemeRest? (c :: rest) else none

/-! ## Authority -/

def isSlash (special : Bool) (c : Char) : Bool := c = '/' || (special && c = '\\')

/-- User, password and what follows them; none of them if there is no at sign. -/
structure Credentials where
  user : List Char
  password : List Char
  given : Bool
  rest : List Char

/-- What stands before and after the last at sign. -/
def splitAt? (cs : List Char) : Option (List Char × List Char) :=
  let reversed := cs.reverse
  let after := (reversed.takeWhile (· ≠ '@')).reverse
  match reversed.dropWhile (· ≠ '@') with
  | _ :: before => some (before.reverse, after)
  | [] => none

def credentials (cs : List Char) : Credentials :=
  match splitAt? cs with
  | none => ⟨[], [], false, cs⟩
  | some (before, rest) =>
    let (user, password) := cut ':' before
    ⟨Percent.encode Percent.userSet user, Percent.encode Percent.userSet (password.getD []),
      true, rest⟩

/-- A host and what follows it: it ends at a colon outside brackets. -/
def hostEnd (bracketed : Bool) : List Char → List Char × List Char
  | [] => ([], [])
  | c :: rest =>
    if c = ':' ∧ ¬bracketed then ([], c :: rest)
    else
      let r := hostEnd (if c = '[' then true else if c = ']' then false else bracketed) rest
      (c :: r.1, r.2)

/-- The port after a colon, and what follows it: a backslash may begin a path. -/
def portAfter (scheme : List Char) (cs : List Char) : Except UrlError (Option Nat × List Char) :=
  let digits := cs.takeWhile Char.isDigit
  let rest := cs.dropWhile Char.isDigit
  let n := Digit.natOf digits
  if 65535 < n then .error .invalidPort
  else if rest.head?.any (· ≠ '\\') then .error .invalidPort
  else if digits.isEmpty ∨ defaultPort? scheme = some n then .ok (none, rest)
  else .ok (some n, rest)

/-- The path after an authority. -/
def pathAfter (special : Bool) : List Char → Path
  | [] => if special then [[]] else []
  | c :: rest => if isSlash special c then Path.follow special [] rest
    else Path.follow special [] (c :: rest)

/-- The host of a scheme. -/
def readHost (special : Bool) (cs : List Char) : Except UrlError Host :=
  if special then Host.read cs else Host.readOpaque cs

/-- A URL from its authority on. -/
def authority (scheme : List Char) (cs : List Char) (parts : Parts) : Except UrlError Url := do
  let special := isSpecialScheme scheme
  let text := cs.takeWhile (!isSlash special ·)
  let path := cs.dropWhile (!isSlash special ·)
  let c := credentials text
  let (hostText, afterHost) := hostEnd false c.rest
  let isLast := path.isEmpty && parts.query.isNone && parts.fragment.isNone
  if hostText.isEmpty ∧ (special ∨ ¬afterHost.isEmpty ∨ ¬c.user.isEmpty ∨ ¬c.password.isEmpty ∨
      (c.given ∧ ¬isLast)) then throw .emptyHost
  let host ← readHost special hostText
  let (port, afterPort) ← match afterHost with
    | _ :: digits => portAfter scheme digits
    | [] => pure (none, [])
  let u : Url := {
    scheme := scheme
    user := c.user
    password := c.password
    host := some host
    port := port
    path := .segments (pathAfter special (afterPort ++ path)) }
  return u.withParts parts

/-! ## Files -/

/-- A path of files begins with no empty segment, unless it is the root. -/
def trimEmpty : Path → Path
  | [] :: s :: rest => trimEmpty (s :: rest)
  | p => p

/-- The first segment of a path of files may name a drive, which is written with a colon. -/
def normalDrive : Path → Path
  | [c, '|'] :: rest => if c.isAlpha then [c, ':'] :: rest else [c, '|'] :: rest
  | p => p

/-- The path of a file without a host before it. -/
def filePath (cs : List Char) : Path := trimEmpty (normalDrive (pathAfter true cs))

/-- The host of a file, and its path. A host that names a drive is part of the path. This machine is
no host, and the path then stands as it is written. Files of a drive have no other host. -/
def fileHost (cs : List Char) : Except UrlError (Host × Path) := do
  let text := cs.takeWhile (!isSlash true ·)
  let path := pathAfter true (cs.dropWhile (!isSlash true ·))
  if text.isEmpty then return (.opaqueName [], trimEmpty path)
  if Path.isDrive text then return (.opaqueName [], filePath cs)
  let host ← Host.read text
  if host = .domain "localhost".toList then return (.opaqueName [], trimEmpty path)
  if path.head?.any Path.isDrive then return (.opaqueName [], trimEmpty (normalDrive path))
  return (host, trimEmpty path)

/-- A URL of a file. -/
def file (cs : List Char) (parts : Parts) : Except UrlError Url := do
  let (host, path) ← match cs with
    | a :: b :: rest =>
      if isSlash true a && isSlash true b then fileHost rest
      else pure (.opaqueName [], filePath cs)
    | _ => pure (.opaqueName [], filePath cs)
  let u : Url := {
    scheme := "file".toList
    host := some host
    path := .segments path }
  return u.withParts parts

/-! ## Relative and absolute -/

/-- The segments of a URL. -/
def segments (u : Url) : Path :=
  match u.path with
  | .segments p => p
  | .opaqueText _ => []

/-- The text of a relative URL, seen from another URL. -/
def relative (base : Url) (cs : List Char) (parts : Parts) : Except UrlError Url :=
  let special := base.isSpecial
  match cs with
  | [] =>
    if parts.query.isSome then .ok (base.withParts parts)
    else .ok { base.withParts parts with query := base.query }
  | c :: rest =>
    if isSlash special c then
      match rest with
      | d :: after =>
        if isSlash special d then
          if c = '/' ∧ d = '/' then authority base.scheme after parts
          else authority base.scheme (cs.dropWhile (isSlash special)) parts
        else
          .ok ({ base with path := .segments (Path.follow special [] rest) }.withParts parts)
      | [] => .ok ({ base with path := .segments [[]] }.withParts parts)
    else
      .ok ({ base with path := .segments (Path.follow special base.segments.dropLast cs) }.withParts
        parts)

/-- What follows a scheme, perhaps seen from another URL. -/
def afterScheme (base : Option Url) (scheme cs : List Char) (parts : Parts) :
    Except UrlError Url :=
  if scheme = "file".toList then file cs parts
  else if isSpecialScheme scheme then
    let slashes := (cs.takeWhile (isSlash true)).length
    match base with
    | some b =>
      if slashes < 2 ∧ b.scheme = scheme then relative b cs parts
      else authority scheme (cs.drop slashes) parts
    | none => authority scheme (cs.drop slashes) parts
  else
    match cs with
    | '/' :: '/' :: rest => authority scheme rest parts
    | '/' :: rest =>
      let u : Url := { scheme := scheme, path := .segments (Path.follow false [] rest) }
      .ok (u.withParts parts)
    | _ =>
      let u : Url := {
        scheme := scheme
        path := .opaqueText (Percent.encode Percent.controlSet cs) }
      .ok (u.withParts parts)

/-- The URL of a text, which may be relative to a URL. -/
def read (base : Option Url) (s : String) : Except UrlError Url :=
  let parts := Parts.of (clean s.toList)
  match scheme? parts.head, base with
  | some (scheme, rest), _ => afterScheme base scheme rest parts
  | none, some b => relative b parts.head parts
  | none, none => .error .relativeWithoutBase

/-- The URL of a text. -/
def parse (s : String) : Except UrlError Url := read none s

/-- The URL of a text that may be relative to this one. -/
def join (u : Url) (s : String) : Except UrlError Url := read (some u) s

end Url

end GraphIngest
