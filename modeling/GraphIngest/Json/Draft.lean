import GraphIngest.Json.Token

/-!
# Drafts of JSON values

A draft is the tree of a text as far as the text is well formed. Where it is not, the draft says so
in that place. Readers walk over drafts, so the first thing that is wrong on their way is what they
report.

## Main definitions

* `Draft`: a tree with the ways in which it may break off.
* `Draft.build`: the draft that tokens form, and the tokens after it.
-/

namespace GraphIngest

/-- How a list ended. -/
inductive ListEnd where
  | closed
  | endOfInput
  | noComma
  | commaThenClose
  | commaThenEnd
  /-- Its last item broke off. -/
  | cut
  deriving DecidableEq, Repr, Inhabited

/-- How the members of an object ended. -/
inductive ObjectEnd where
  | closed
  | endOfInput
  | noComma
  | commaThenClose
  | commaThenEnd
  /-- A token that is no text stands where a key should be. -/
  | noKey
  | brokenKey (key : Quoted)
  | keyThenEnd (key : Quoted)
  | keyThenOther (key : Quoted)
  /-- The value of its last member broke off. -/
  | cut
  deriving DecidableEq, Repr, Inhabited

/-- What is wrong with the end of a list that is passed over. -/
def ListEnd.whenSkipped : ListEnd → Except Malformed Unit
  | .closed | .cut => .ok ()
  | .endOfInput => .error .endInList
  | .noComma => .error .expectedListComma
  | .commaThenClose => .error .expectedValue
  | .commaThenEnd => .error .endInValue

/-- What is wrong with the end of an object that is passed over. -/
def ObjectEnd.whenSkipped : ObjectEnd → Except Malformed Unit
  | .closed | .cut => .ok ()
  | .endOfInput | .commaThenEnd => .error .endInObject
  | .noComma => .error .expectedObjectComma
  | .commaThenClose | .noKey => .error .keyNotText
  | .brokenKey q => q.skip
  | .keyThenEnd q => do q.skip; throw .endInObject
  | .keyThenOther q => do q.skip; throw .expectedColon

/-- The tree of a text as far as it is well formed. -/
inductive Draft where
  | null
  | bool (value : Bool)
  | number (value : Numeral)
  | text (value : Quoted)
  | array (items : List Draft) (ending : ListEnd)
  | object (members : List (Quoted × Draft)) (ending : ObjectEnd)
  /-- No value: what is said when it is read, and when it is passed over. -/
  | broken (whenRead whenSkipped : Malformed)
  /-- No value, because the text ended before it. -/
  | missing
  deriving Repr, Inhabited

namespace Draft

/-- A container that waits for one of its values; what it has so far is in reverse. -/
inductive Frame where
  | list (before : List Draft)
  | member (before : List (Quoted × Draft)) (key : Quoted)
  deriving Repr, Inhabited

/-- What may come next, and what the innermost container has so far, in reverse. -/
inductive Stage where
  | value
  | listOpened
  | item (before : List Draft)
  | itemComma (before : List Draft)
  | objectOpened
  | member (before : List (Quoted × Draft))
  | memberComma (before : List (Quoted × Draft))
  | key (before : List (Quoted × Draft)) (key : Quoted)
  deriving Repr, Inhabited

/-- The state after a token. -/
inductive Progress where
  /-- The value is complete, or broke off. -/
  | finished (d : Draft)
  | going (frames : List Frame) (stage : Stage)
  deriving Repr, Inhabited

/-- Give a complete value to the container that waits for it. -/
def supply (d : Draft) : List Frame → Progress
  | [] => .finished d
  | .list before :: frames => .going frames (.item (d :: before))
  | .member before key :: frames => .going frames (.member ((key, d) :: before))

/-- Close all containers around a value that broke off. -/
def unwind (d : Draft) : List Frame → Draft
  | [] => d
  | .list before :: frames => unwind (.array (d :: before).reverse .cut) frames
  | .member before key :: frames => unwind (.object ((key, d) :: before).reverse .cut) frames

def breakOff (frames : List Frame) (d : Draft) : Progress := .finished (unwind d frames)

/-- A token where a value should begin. -/
def stepValue (frames : List Frame) : JsonToken → Progress
  | .null => supply .null frames
  | .bool b => supply (.bool b) frames
  | .number n => supply (.number n) frames
  | .text q => if q.ending = .closed then supply (.text q) frames else breakOff frames (.text q)
  | .openList => .going frames .listOpened
  | .openObject => .going frames .objectOpened
  | .broken whenRead whenSkipped => breakOff frames (.broken whenRead whenSkipped)
  | .closeList | .closeObject | .comma | .colon =>
    breakOff frames (.broken .expectedValue .expectedValue)

/-- A token where a key should be. -/
def stepKey (frames : List Frame) (before : List (Quoted × Draft)) : JsonToken → Progress
  | .text q =>
    if q.ending = .closed then .going frames (.key before q)
    else breakOff frames (.object before.reverse (.brokenKey q))
  | _ => breakOff frames (.object before.reverse .noKey)

/-- One token. -/
def step (frames : List Frame) : Stage → JsonToken → Progress
  | .value, t => stepValue frames t
  | .listOpened, .closeList => supply (.array [] .closed) frames
  | .listOpened, t => stepValue (.list [] :: frames) t
  | .item before, .closeList => supply (.array before.reverse .closed) frames
  | .item before, .comma => .going frames (.itemComma before)
  | .item before, _ => breakOff frames (.array before.reverse .noComma)
  | .itemComma before, .closeList => breakOff frames (.array before.reverse .commaThenClose)
  | .itemComma before, t => stepValue (.list before :: frames) t
  | .objectOpened, .closeObject => supply (.object [] .closed) frames
  | .objectOpened, t => stepKey frames [] t
  | .member before, .closeObject => supply (.object before.reverse .closed) frames
  | .member before, .comma => .going frames (.memberComma before)
  | .member before, _ => breakOff frames (.object before.reverse .noComma)
  | .memberComma before, .closeObject => breakOff frames (.object before.reverse .commaThenClose)
  | .memberComma before, t => stepKey frames before t
  | .key before key, .colon => .going (.member before key :: frames) .value
  | .key before key, _ => breakOff frames (.object before.reverse (.keyThenOther key))

/-- What a value is whose text ends here. -/
def atEnd : Stage → Draft
  | .value => .missing
  | .listOpened => .array [] .endOfInput
  | .item before => .array before.reverse .endOfInput
  | .itemComma before => .array before.reverse .commaThenEnd
  | .objectOpened => .object [] .endOfInput
  | .member before => .object before.reverse .endOfInput
  | .memberComma before => .object before.reverse .commaThenEnd
  | .key before key => .object before.reverse (.keyThenEnd key)

/-- The draft that tokens form from a state on, and the tokens after it. -/
def buildFrom (frames : List Frame) (stage : Stage) : List JsonToken → Draft × List JsonToken
  | [] => (unwind (atEnd stage) frames, [])
  | t :: rest =>
    match step frames stage t with
    | .finished d => (d, rest)
    | .going frames stage => buildFrom frames stage rest

/-- The draft that tokens begin with, and the tokens after it. -/
def build (tokens : List JsonToken) : Draft × List JsonToken := buildFrom [] .value tokens

/-! ## Passing over -/

mutual

/-- Whether a value may be passed over. It has to be well formed, but numbers may be out of range,
texts may hold unpaired surrogates, and it may be nested to any depth. -/
def skip : Draft → Except Malformed Unit
  | .null | .bool _ | .number _ => .ok ()
  | .text q => q.skip
  | .broken _ whenSkipped => .error whenSkipped
  | .missing => .error .endInValue
  | .array items ending => do
    skipItems items
    ending.whenSkipped
  | .object members ending => do
    skipMembers members
    ending.whenSkipped

def skipItems : List Draft → Except Malformed Unit
  | [] => .ok ()
  | d :: rest => do
    skip d
    skipItems rest

def skipMembers : List (Quoted × Draft) → Except Malformed Unit
  | [] => .ok ()
  | (key, d) :: rest => do
    key.skip
    skip d
    skipMembers rest

end

end Draft

end GraphIngest
