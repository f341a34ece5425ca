import GraphIngest.Config.Settings
import GraphIngest.Toml.Reader
import GraphIngest.Toml.Writer

/-!
# Settings as a document

## Main definitions

* `Settings.ofDocument`: the settings of a document.
* `Settings.toDocument`: the document of settings.
-/

namespace GraphIngest

/-! ## Reading -/

namespace TomlItem

/-- How messages write a floating-point number. -/
def floatText : FloatValue → String
  | .finite x => DecimalLayout.plain.render x.negative (x.shortest .double)
  | .infinite negative => if negative then "-inf" else "inf"
  | .notANumber => "NaN"

/-- What stands in a place. -/
def found : TomlItem → Found
  | .scalar (.text s) => .text s
  | .scalar (.int n) => .int n
  | .scalar (.float x) => .float (floatText x)
  | .scalar (.bool b) => .bool b
  | .scalar .date => .map
  | .array _ => .sequence
  | .table .. => .map
  | .tables _ => .sequence

def text : TomlItem → Except Mismatch String
  | .scalar (.text s) => .ok s
  | item => .error (.wrongType item.found "a string")

/-- A natural number up to a bound. -/
def nat (greatest : Nat) (expected : String) : TomlItem → Except Mismatch Nat
  | .scalar (.int n) =>
    if 0 ≤ n ∧ n ≤ greatest then .ok n.toNat else .error (.wrongValue (.int n) expected)
  | item => .error (.wrongType item.found expected)

def uint16 (item : TomlItem) : Except Mismatch UInt16 := .ofNat <$> item.nat (UInt16.size - 1) "u16"

def uint32 (item : TomlItem) : Except Mismatch UInt32 := .ofNat <$> item.nat (UInt32.size - 1) "u32"

def uint64 (item : TomlItem) : Except Mismatch UInt64 := .ofNat <$> item.nat (UInt64.size - 1) "u64"

end TomlItem

namespace Settings

/-- Put one entry into settings. Names that are unknown are passed over. -/
def Partial.setEntry (p : Partial) (e : String × TomlItem) : Except Mismatch Partial :=
  match e.1 with
  | "listen_port" => do return { p with listenPort := some (← e.2.uint16) }
  | "store_host" => do return { p with storeHost := some (← e.2.text) }
  | "store_port" => do return { p with storePort := some (← e.2.uint16) }
  | "store_scheme" => do return { p with storeScheme := some (← e.2.text) }
  | "ready_attempts" => do return { p with readyAttempts := some (← e.2.uint32) }
  | "ready_delay_secs" => do return { p with readyDelay := some (← e.2.uint64) }
  | "request_timeout_secs" => do return { p with requestTimeout := some (← e.2.uint64) }
  | _ => .ok p

/-- Why a text holds no settings. -/
inductive DocumentError where
  /-- It is no document. -/
  | malformed
  | mismatch (m : Mismatch)
  deriving DecidableEq, Repr, Inhabited

def DocumentError.message : DocumentError → String
  | malformed => "TOML parse error"
  | mismatch m => m.message

/-- The settings of a document. The whole document has to be well formed; the entries are then
looked at in their order. -/
def ofDocument (s : String) : Except DocumentError Settings :=
  match Toml.read? s with
  | none => .error .malformed
  | some entries =>
    match entries.foldlM Partial.setEntry {} with
    | .ok p => .ok p.complete
    | .error m => .error (.mismatch m)

/-! ## Writing -/

/-- One line of a document. -/
def entryLine (name value : String) : String := name ++ " = " ++ value ++ "\n"

/-- The document of settings. It has no numbers beyond sixty-three bits. -/
def toDocument (s : Settings) : Option String :=
  let greatest := 9223372036854775807
  if s.readyDelay.toNat ≤ greatest ∧ s.requestTimeout.toNat ≤ greatest then
    some (entryLine "listen_port" (toString s.listenPort) ++
      entryLine "store_host" (Toml.quote s.storeHost) ++
      entryLine "store_port" (toString s.storePort) ++
      entryLine "store_scheme" (Toml.quote s.storeScheme) ++
      entryLine "ready_attempts" (toString s.readyAttempts) ++
      entryLine "ready_delay_secs" (toString s.readyDelay) ++
      entryLine "request_timeout_secs" (toString s.requestTimeout))
  else none

end Settings

end GraphIngest
