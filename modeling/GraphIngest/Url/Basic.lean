import GraphIngest.Url.Path

/-!
# URLs

## Main definitions

* `Url`: the parts of an absolute URL.
* `Url.render`: its text.
* `Url.withoutUser`: what is left of it when it no longer says who asks.
-/

namespace GraphIngest

/-- The path of a URL: segments, or a text without structure. -/
inductive UrlPath where
  | segments (path : Path)
  | opaqueText (text : List Char)
  deriving DecidableEq, Repr, Inhabited

/-- An absolute URL. All texts are encoded. -/
structure Url where
  scheme : List Char
  user : List Char := []
  password : List Char := []
  host : Option Host := none
  /-- The port, unless it is the default port of the scheme. -/
  port : Option Nat := none
  path : UrlPath
  query : Option (List Char) := none
  fragment : Option (List Char) := none
  deriving DecidableEq, Repr, Inhabited

namespace Url

/-! ## Schemes -/

/-- The schemes whose URLs have a host and a path of segments. -/
def specialSchemes : List (String × Option Nat) :=
  [("http", some 80), ("https", some 443), ("ws", some 80), ("wss", some 443), ("ftp", some 21),
    ("file", none)]

def isSpecialScheme (scheme : List Char) : Bool :=
  specialSchemes.any fun s => s.1.toList = scheme

/-- The port that a scheme implies. -/
def defaultPort? (scheme : List Char) : Option Nat :=
  (specialSchemes.find? fun s => s.1.toList = scheme).bind (·.2)

def isSpecial (u : Url) : Bool := isSpecialScheme u.scheme

/-! ## Text -/

/-- The user and the password before a host. -/
def userText (u : Url) : List Char :=
  if u.user.isEmpty ∧ u.password.isEmpty then []
  else
    u.user ++ (if u.password.isEmpty then [] else ':' :: u.password) ++ ['@']

def portText (u : Url) : List Char :=
  match u.port with
  | some n => ':' :: Nat.toDigits 10 n
  | none => []

/-- What stands between the scheme and the path. Without a host, a path that begins with two
slashes is set off, so that it is not taken for one. -/
def authorityText (u : Url) : List Char :=
  match u.host, u.path with
  | some h, _ => ['/', '/'] ++ u.userText ++ h.render ++ u.portText
  | none, .segments ([] :: _ :: _) => ['/', '.']
  | none, _ => []

def pathText (u : Url) : List Char :=
  match u.path with
  | .segments p => p.render
  | .opaqueText t => t

/-- A part after a mark, if there is one. -/
def marked (mark : Char) : Option (List Char) → List Char
  | some t => mark :: t
  | none => []

def chars (u : Url) : List Char :=
  u.scheme ++ ':' :: (u.authorityText ++ u.pathText ++ marked '?' u.query ++ marked '#' u.fragment)

/-- The text of a URL. -/
def render (u : Url) : String := String.ofList u.chars

/-- The same URL without user and password. -/
def withoutUser (u : Url) : Url := { u with user := [], password := [] }

end Url

end GraphIngest
