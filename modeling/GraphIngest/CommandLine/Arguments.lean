import GraphIngest.Text.Digit

/-!
# Arguments

A command line is read from left to right. An option that takes a value is complete when the next
option begins or when the line ends; only then is it checked.

## Main definitions

* `Argument`: an option that a command knows.
* `UsageError`: why a command line cannot be understood.
* `Arguments.scan`: the values of the options on a command line.
-/

namespace GraphIngest

/-- Why a command line cannot be understood, or that it asks about the program itself. -/
inductive UsageError where
  | valueValidation
  | invalidValue
  | unknownArgument
  | argumentConflict
  | tooManyValues
  | missingCommand
  | unknownCommand
  /-- Help is asked for, briefly or in full. -/
  | help (full : Bool)
  | version
  deriving DecidableEq, Repr, Inhabited

/-- The word for a usage error. -/
def UsageError.name : UsageError → String
  | valueValidation => "ValueValidation"
  | invalidValue => "InvalidValue"
  | unknownArgument => "UnknownArgument"
  | argumentConflict => "ArgumentConflict"
  | tooManyValues => "TooManyValues"
  | missingCommand => "MissingSubcommand"
  | unknownCommand => "InvalidSubcommand"
  | help _ => "DisplayHelp"
  | version => "DisplayVersion"

/-- What an option is for. -/
inductive ArgumentKind where
  /-- It is given or not. -/
  | switch
  /-- It takes a text. -/
  | text
  /-- It takes a text that is not empty. -/
  | path
  /-- It takes the number of a port. -/
  | port
  | help
  | version
  deriving DecidableEq, Repr, Inhabited

/-- An option that a command knows. -/
structure Argument where
  name : String
  /-- What it is for. -/
  about : String
  short : Option Char := none
  kind : ArgumentKind
  /-- The variable that is looked at if the option is not given. -/
  fallback : Option String := none
  /-- What is taken if it is not given at all. -/
  otherwise : Option String := none
  deriving DecidableEq, Repr, Inhabited

/-! ## Values -/

namespace ArgumentKind

/-- Whether the option takes a value. -/
def takesValue : ArgumentKind → Bool
  | text | path | port => true
  | switch | help | version => false

/-- An integer with an optional sign. -/
def integer? (s : String) : Option Int :=
  let digits (cs : List Char) : Option Nat :=
    if cs.isEmpty ∨ cs.any (!·.isDigit) then none else some (Digit.natOf cs)
  match s.toList with
  | '-' :: cs => (digits cs).map fun n => -(n : Int)
  | '+' :: cs => (digits cs).map fun n => (n : Int)
  | cs => (digits cs).map fun n => (n : Int)

/-- The port of a text. -/
def port? (s : String) : Option UInt16 := do
  let n ← integer? s
  if 0 ≤ n ∧ n ≤ 65535 then some (UInt16.ofNat n.toNat) else none

/-- Whether a text will do as the value of an option. -/
def check (s : String) : ArgumentKind → Except UsageError Unit
  | path => if s.isEmpty then .error .invalidValue else .ok ()
  | port => if (port? s).isSome then .ok () else .error .valueValidation
  | switch | text | help | version => .ok ()

end ArgumentKind

/-! ## Scanning -/

/-- What was given so far: complete options with their values, and an option that is not complete
yet, perhaps without its value. -/
structure Arguments where
  given : List (String × String) := []
  pending : Option (Argument × Option String) := none
  deriving Repr, Inhabited

namespace Arguments

/-- The value of an option, if it is given. -/
def get? (a : Arguments) (name : String) : Option String := a.given.lookup name

/-- Whether a switch is given. -/
def has (a : Arguments) (name : String) : Bool := (a.get? name).isSome

/-- Complete an option. It may be given once; its value is checked last. -/
def complete (a : Arguments) (arg : Argument) (value : Option String) :
    Except UsageError Arguments := do
  if arg.kind.takesValue ∧ value.isNone then throw .invalidValue
  if a.has arg.name then throw .argumentConflict
  let value := value.getD ""
  arg.kind.check value
  return ⟨a.given ++ [(arg.name, value)], none⟩

/-- Complete the option that is pending. -/
def settle (a : Arguments) : Except UsageError Arguments :=
  match a.pending with
  | none => .ok a
  | some (arg, value) => { a with pending := none }.complete arg value

/-- An option in its place, given by its letter or by its name. A value may be attached to it. -/
def option (a : Arguments) (arg : Argument) (byName : Bool) (attached : Option String) :
    Except UsageError Arguments :=
  match arg.kind, attached with
  | .help, none => do
    let _ ← a.settle
    throw (.help byName)
  | .version, none => do
    let _ ← a.settle
    throw .version
  | kind, attached =>
    match kind.takesValue, attached with
    | false, some _ => .error .tooManyValues
    | true, none => do return { (← a.settle) with pending := some (arg, none) }
    | _, _ => do (← a.settle).complete arg attached

/-- A name and what is attached to it by an equals sign. -/
def splitName (cs : List Char) : String × Option String :=
  let name := String.ofList (cs.takeWhile (· ≠ '='))
  match cs.dropWhile (· ≠ '=') with
  | _ :: value => (name, some (String.ofList value))
  | [] => (name, none)

/-- An option by its name. -/
def long (known : List Argument) (a : Arguments) (cs : List Char) : Except UsageError Arguments :=
  let (name, attached) := splitName cs
  match known.find? (·.name = name) with
  | some arg => a.option arg true attached
  | none => .error .unknownArgument

/-- Options by their letters; the rest after one that takes a value is its value. -/
def short (known : List Argument) (a : Arguments) : List Char → Except UsageError Arguments
  | [] => .ok a
  | c :: rest =>
    match known.find? (·.short = some c) with
    | none => .error .unknownArgument
    | some arg =>
      if arg.kind.takesValue then
        match rest with
        | [] => a.option arg false none
        | '=' :: value => a.option arg false (some (String.ofList value))
        | value => a.option arg false (some (String.ofList value))
      else
        match a.option arg false none with
        | .ok a => short known a rest
        | .error e => .error e

/-- A text that is no option: the value that is waited for, if there is one. -/
def value (a : Arguments) (s : String) : Except UsageError Arguments :=
  match a.pending with
  | some (arg, none) => .ok { a with pending := some (arg, some s) }
  | _ => .error .unknownArgument

/-- Whether an option waits for its value. -/
def isWaiting (a : Arguments) : Bool :=
  match a.pending with
  | some (_, none) => true
  | _ => false

/-- Scan a command line up to the name of a command, if there is one; that name and the rest of the
line come back. Nothing may follow two hyphens. -/
def scan (known : List Argument) (commands : List String) (a : Arguments) :
    List String → Except UsageError (Arguments × Option (String × List String))
  | [] => .ok (a, none)
  | s :: rest =>
    if !a.isWaiting ∧ commands.contains s then .ok (a, some (s, rest))
    else if s = "--" then if rest.isEmpty then .ok (a, none) else .error .unknownArgument
    else
      let next := match s.toList with
        | '-' :: '-' :: cs => a.long known cs
        | '-' :: c :: cs => a.short known (c :: cs)
        | _ => a.value s
      match next with
      | .ok a => scan known commands a rest
      | .error e => .error e

/-- Take options that are not given from variables. -/
def fromVariables (env : List (String × String)) (a : Arguments) :
    List Argument → Except UsageError Arguments
  | [] => .ok a
  | arg :: rest =>
    match a.has arg.name, arg.fallback.bind (env.lookup ·) with
    | false, some v => do fromVariables env (← a.complete arg (some v)) rest
    | _, _ => fromVariables env a rest

/-- The options of a whole command line that names no command. -/
def parse (known : List Argument) (env : List (String × String)) (line : List String) :
    Except UsageError Arguments := do
  let (a, _) ← scan known [] {} line
  (← a.settle).fromVariables env known

end Arguments

end GraphIngest
