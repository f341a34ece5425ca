import GraphIngest.CommandLine.Help
import GraphIngest.Http.Store

/-!
# Commands

## Main definitions

* `Command`: what a program can be told to do; `Command.run` is what becomes of it.
* `Overrides.parse`: the settings on a command line and in the environment.
* `Invocation.parse`: the command on a command line, and how it is to be run.
* `Refusal`: why a line leads to no command.
* `Exit`: what the caller of a program sees when it ends.
-/

namespace GraphIngest

/-! ## Overrides -/

namespace Overrides

def ofArguments (a : Arguments) : Overrides where
  port := (a.get? "port").bind ArgumentKind.port?
  storeHost := a.get? "store-host"
  storePort := (a.get? "store-port").bind ArgumentKind.port?

/-- The overrides on a command line that holds nothing else, and in the environment. -/
def parse (line : List String) (env : List (String × String)) : Except UsageError Overrides :=
  ofArguments <$> Arguments.parse (arguments ++ [helpArgument]) env line

end Overrides

/-! ## Commands -/

/-- What a program can be told to do. -/
inductive Command where
  /-- Wait for the store, then serve. -/
  | serve (file : Option String) (overrides : Overrides)
  /-- Wait for the store. -/
  | ready (file : Option String) (overrides : Overrides)
  /-- Write a file with the default settings. -/
  | init (path : String) (force : Bool)
  deriving DecidableEq, Repr, Inhabited

/-- A command, and how it is to be run. -/
structure Invocation where
  command : Command
  /-- Whether all events are to be seen. -/
  verbose : Bool
  deriving DecidableEq, Repr, Inhabited

/-- The command of a topic, with the options of the program and its own. The file of settings that
is named last counts. -/
def Command.ofTopic (t : Topic) (root own : Arguments) : Except UsageError Command :=
  let file := (own.get? "config").or (root.get? "config")
  match t with
  | .serve => .ok (.serve file (.ofArguments own))
  | .ready => .ok (.ready file (.ofArguments own))
  | .init => .ok (.init ((own.get? "path").getD Settings.defaultPath) (own.has "force"))
  | .program | .help => .error .missingCommand

/-- Why a line does not lead to a command, and what the line was about there. -/
structure Refusal where
  topic : Topic
  cause : UsageError
  deriving DecidableEq, Repr, Inhabited

namespace Invocation

/-- The topic that a line asks help for. -/
def helpTopic : List String → Except UsageError Topic
  | [] => .ok .program
  | [name] =>
    match Topic.ofName? name with
    | some t => .ok t
    | none => .error .unknownCommand
  | _ => .error .unknownCommand

/-- What a line asks for. The options of every command may stand before its name and after it. -/
def parse (line : List String) (env : List (String × String)) : Except Refusal Invocation := do
  let at_ {α : Type} (t : Topic) (r : Except UsageError α) : Except Refusal α :=
    r.mapError (Refusal.mk t)
  let (root, rest) ← at_ .program
    (Arguments.scan Topic.program.arguments (Topic.commands.map Topic.name) {} line)
  match rest.bind fun (name, rest) => (Topic.ofName? name).map (·, rest) with
  | none =>
    let _ ← at_ .program root.settle
    throw ⟨.program, .missingCommand⟩
  | some (.help, rest) => throw ⟨← at_ .help (helpTopic rest), .help true⟩
  | some (t, rest) =>
    let own ← at_ t (Arguments.parse t.arguments env rest)
    let root ← at_ .program root.settle
    return ⟨← at_ t (Command.ofTopic t root own), own.has "verbose" || root.has "verbose"⟩

end Invocation

/-! ## Running -/

/-- What becomes of a command that ends: the files afterwards, and what is printed. A failure is
printed as an error. -/
structure Outcome where
  disk : Disk
  printed : Except String String
  deriving Inhabited

/-- What becomes of a command. -/
inductive Ending where
  | outcome (o : Outcome)
  /-- The program goes on to serve. -/
  | serving (settings : Settings) (store : HttpStore)

namespace Command

/-- The file that a command reads or writes. -/
def path : Command → String
  | init path _ => path
  | serve file _ | ready file _ => file.getD Settings.defaultPath

/-- How many milliseconds a command waits for a reply. -/
def patience (disk : Disk) : Command → Nat
  | init .. => 0
  | serve file overrides | ready file overrides =>
    match Settings.resolve disk file overrides with
    | .ok settings => 1000 * settings.requestTimeout.toNat
    | .error _ => 0

/-- The store that a run needs, with its settings. -/
def connect (disk : Disk) (file : Option String) (overrides : Overrides) :
    HttpDialogue (Except String (Settings × HttpStore)) := do
  match Settings.resolve disk file overrides with
  | .error e => return .error e.message
  | .ok settings =>
    match ← HttpStore.connect settings with
    | .error e => return .error e.message
    | .ok store => return .ok (settings, store)

/-- Run a command. -/
def run (disk : Disk) : Command → HttpDialogue Ending
  | .init path force =>
    match (Settings.save path {} force).run disk with
    | (.error e, disk) => return .outcome ⟨disk, .error e.message⟩
    | (.ok _, disk) => return .outcome ⟨disk, .ok ("Wrote default config to " ++ path)⟩
  | .ready file overrides => do
    match ← connect disk file overrides with
    | .error e => return .outcome ⟨disk, .error e⟩
    | .ok (settings, _) =>
      match settings.baseUrl with
      | .error e => return .outcome ⟨disk, .error e.message⟩
      | .ok url => return .outcome ⟨disk, .ok ("Store at " ++ url ++ " is ready")⟩
  | .serve file overrides => do
    match ← connect disk file overrides with
    | .error e => return .outcome ⟨disk, .error e⟩
    | .ok (settings, store) => return .serving settings store

end Command

/-! ## What the caller sees -/

/-- The exit code of a program, and what it prints. Where it complains about a line, the wording is
left to whoever prints it. -/
structure Exit where
  code : Nat
  printed : Option (String × String)
  deriving DecidableEq, Repr, Inhabited

namespace Exit

def ofRefusal (env : List (String × String)) (r : Refusal) : Exit :=
  match r.cause with
  | .version => ⟨0, some (Topic.program.name ++ " " ++ Topic.version ++ "\n", "")⟩
  | .help full => ⟨0, some (r.topic.page env full, "")⟩
  | _ => ⟨2, none⟩

def ofOutcome (o : Outcome) : Exit :=
  match o.printed with
  | .ok s => ⟨0, some (s ++ "\n", "")⟩
  | .error s => ⟨1, some ("", "Error: " ++ s ++ "\n")⟩

end Exit

end GraphIngest
