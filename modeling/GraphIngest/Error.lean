/-!
# Errors

## Main definitions

* `Error`: why an operation of the library failed.
* `Error.message`: its wording.
-/

namespace GraphIngest

inductive Error where
  /-- There is no way to the store. -/
  | connection (reason : String)
  /-- The store was asked so many times and was never ready. -/
  | notReady (attempts : Nat)
  /-- The store did not do what a request asked for. -/
  | write (reason : String)
  /-- The nodes of a batch were not all written. -/
  | nodeWrite (reason : String)
  /-- A relationship was not created. -/
  | referenceWrite (relationship reason : String)
  /-- The settings make no sense. -/
  | config (reason : String)
  deriving DecidableEq, Repr, Inhabited

def Error.message : Error → String
  | connection reason => "Connection error: " ++ reason
  | notReady attempts => "Store not ready after " ++ toString attempts ++ " attempts"
  | write reason => "Write error: " ++ reason
  | nodeWrite reason => "failed to ingest nodes: " ++ reason
  | referenceWrite relationship reason =>
    "failed to create relationship " ++ relationship ++ ": " ++ reason
  | config reason => "Config error: " ++ reason

end GraphIngest
