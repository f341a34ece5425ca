import GraphIngest.Config.Disk
import GraphIngest.Config.Document

/-!
# Where settings come from

The settings of a run are the defaults, then those of a file, then those of the command line and
the environment.

## Main definitions

* `Settings.load`: the settings of a file, if it exists.
* `Settings.resolve`: the settings of a run.
* `Settings.save`: write settings to a file, but not over another file unless told to.
-/

namespace GraphIngest

/-- Why settings cannot be read or written. -/
inductive SettingsError where
  | file (e : FileError)
  | document (e : Settings.DocumentError)
  /-- A number is too great for a document. -/
  | outOfRange
  /-- There is something at the path already. -/
  | occupied (path : String)
  deriving DecidableEq, Repr, Inhabited

def SettingsError.message : SettingsError → String
  | file e => e.message
  | document e => e.message
  | outOfRange => "out-of-range value for u64 type"
  | occupied path => "config already exists at " ++ path ++ " (use --force to overwrite)"

namespace Settings

/-- The file that settings are looked for in when none is named. -/
def defaultPath : String := "astgraph.toml"

/-- The settings of a file, if it exists. -/
def load (disk : Disk) (path : Option String) : Except SettingsError (Option Settings) :=
  let path := path.getD defaultPath
  if disk.exists path then
    match disk.read path with
    | .error e => .error (.file e)
    | .ok text =>
      match ofDocument text with
      | .error e => .error (.document e)
      | .ok s => .ok (some s)
  else .ok none

/-- The defaults, then the settings of a file, then what wins over both. -/
def resolve (disk : Disk) (path : Option String) (o : Overrides) :
    Except SettingsError Settings := do
  let s ← load disk path
  return (s.getD {}).withOverrides o

/-- Write settings to a file. Each step finds the files as those before it left them, and they stay
so if it fails. -/
def save (path : String) (s : Settings) (force : Bool) :
    ExceptT SettingsError (StateM Disk) Unit := do
  if (← get).exists path ∧ ¬force then throw (.occupied path)
  match s.toDocument with
  | none => throw .outOfRange
  | some text =>
    match (← get).write path text with
    | .error e => throw (.file e)
    | .ok disk => set disk

end Settings

end GraphIngest
