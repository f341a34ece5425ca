import GraphIngest.Error
import GraphIngest.Graph.Basic
import GraphIngest.Store.Rendition

/-!
# Events

What the library tells an observer while it works.

## Main definitions

* `Duration.shown`: how an event names a stretch of time.
* `Event`: something worth telling; `Event.level` and `Event.message` are how it is told.
-/

namespace GraphIngest

/-- How grave an event is. -/
inductive Level where
  | debug
  | info
  | warn
  | error
  deriving DecidableEq, Repr, Inhabited

def Level.name : Level → String
  | debug => "DEBUG"
  | info => "INFO"
  | warn => "WARN"
  | error => "ERROR"

/-- Three digits without zeros at the end. -/
def Duration.thousandths (n : Nat) : List Char :=
  let digits := [n / 100 % 10, n / 10 % 10, n % 10].map Nat.digitChar
  (digits.reverse.dropWhile (· = '0')).reverse

/-- A number of milliseconds in words: seconds, as soon as there is one. -/
def Duration.shown (millis : Nat) : String :=
  if millis = 0 then "0ns"
  else if millis < 1000 then toString millis ++ "ms"
  else
    let fraction := Duration.thousandths (millis % 1000)
    let point := if fraction = [] then [] else ['.']
    toString (millis / 1000) ++ String.ofList (point ++ fraction) ++ "s"

inductive Event where
  | received (nodes relationships : Nat)
  | ingested (nodes relationships : Nat)
  | omitted (omission : Omission)
  | batchFailed (error : Error)
  | refused (id reason : String)
  | relationshipFailed (relationship : Relationship) (error : Error)
  | connecting (url : String)
  | connected
  | checkFailed (reason : String)
  | retrying (delay : Nat) (attempt attempts : Nat)
  | notReady (attempts : Nat)
  deriving DecidableEq, Repr, Inhabited

namespace Event

def level : Event → Level
  | received .. | ingested .. | connecting _ | connected => .info
  | omitted _ | retrying .. => .warn
  | checkFailed _ => .debug
  | batchFailed _ | refused .. | relationshipFailed .. | notReady _ => .error

def message : Event → String
  | received nodes relationships =>
    "Received ingest request with " ++ toString nodes ++ " nodes and " ++ toString relationships ++
      " relationships"
  | ingested nodes relationships =>
    "Successfully ingested " ++ toString nodes ++ " nodes and " ++ toString relationships ++
      " relationships"
  | omitted omission => omission.message
  | batchFailed error => "Error during batch node ingestion: " ++ error.message
  | refused id reason => "Store refused object " ++ id ++ ": " ++ reason
  | relationshipFailed relationship error =>
    "Error creating relationship " ++ relationship.shown ++ ": " ++ error.message
  | connecting url => "Connecting to store at " ++ url
  | connected => "Successfully connected to store"
  | checkFailed reason => "Readiness check failed: " ++ reason
  | retrying delay attempt attempts =>
    "Store not ready, retrying in " ++ Duration.shown delay ++ "... (" ++ toString attempt ++ "/" ++
      toString attempts ++ ")"
  | notReady attempts => "Store not ready after " ++ toString attempts ++ " attempts"

/-- An event as one line. -/
def line (e : Event) : String := e.level.name ++ " " ++ e.message

end Event

end GraphIngest
