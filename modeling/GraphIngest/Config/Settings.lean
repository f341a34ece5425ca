import GraphIngest.Error
import GraphIngest.Json.Record
import GraphIngest.Text.Blank

/-!
# Settings

## Main definitions

* `Settings`: what the program is told once, at its start; every setting has a default.
* `Settings.baseUrl`: the address of the store.
* `Overrides`: settings that win over those of the file.
-/

namespace GraphIngest

structure Settings where
  /-- The port that the service listens on. -/
  listenPort : UInt16 := 50052
  storeHost : String := "localhost"
  storePort : UInt16 := 8080
  storeScheme : String := "http"
  /-- How often the store is asked whether it is ready. -/
  readyAttempts : UInt32 := 5
  /-- Seconds between two such questions. -/
  readyDelay : UInt64 := 5
  /-- Seconds after which a request to the store is given up. -/
  requestTimeout : UInt64 := 30
  deriving DecidableEq, Repr, Inhabited

/-- Settings that win over those of the file. -/
structure Overrides where
  port : Option UInt16 := none
  storeHost : Option String := none
  storePort : Option UInt16 := none
  deriving DecidableEq, Repr, Inhabited

namespace Settings

def withOverrides (s : Settings) (o : Overrides) : Settings :=
  { s with
    listenPort := o.port.getD s.listenPort
    storeHost := o.storeHost.getD s.storeHost
    storePort := o.storePort.getD s.storePort }

/-- The address of the store: scheme, host and port. The host may not be blank. -/
def baseUrl (s : Settings) : Except Error String :=
  if Blank.allBlank s.storeHost then .error (.config "store host must not be empty")
  else .ok (s.storeScheme ++ "://" ++ s.storeHost ++ ":" ++ toString s.storePort)

/-- The address that the service listens on. -/
def listenAddress (s : Settings) : String := "0.0.0.0:" ++ toString s.listenPort

/-! ## Settings that are read -/

/-- Settings of which some are given. -/
structure Partial where
  listenPort : Option UInt16 := none
  storeHost : Option String := none
  storePort : Option UInt16 := none
  storeScheme : Option String := none
  readyAttempts : Option UInt32 := none
  readyDelay : Option UInt64 := none
  requestTimeout : Option UInt64 := none

/-- Settings that are not given have their defaults. -/
def Partial.complete (p : Partial) : Settings :=
  let s : Settings := {}
  { listenPort := p.listenPort.getD s.listenPort
    storeHost := p.storeHost.getD s.storeHost
    storePort := p.storePort.getD s.storePort
    storeScheme := p.storeScheme.getD s.storeScheme
    readyAttempts := p.readyAttempts.getD s.readyAttempts
    readyDelay := p.readyDelay.getD s.readyDelay
    requestTimeout := p.requestTimeout.getD s.requestTimeout }

def readUInt16 : JsonReader UInt16 :=
  fun room d => (fun n => .ofNat n.toNat) <$> JsonReader.int 0 (UInt16.size - 1) "u16" room d

def readUInt32 : JsonReader UInt32 :=
  fun room d => (fun n => .ofNat n.toNat) <$> JsonReader.int 0 (UInt32.size - 1) "u32" room d

def readUInt64 : JsonReader UInt64 :=
  fun room d => (fun n => .ofNat n.toNat) <$> JsonReader.int 0 (UInt64.size - 1) "u64" room d

def format : RecordFormat Partial Settings where
  title := "ProxyConfig"
  empty := {}
  fields := [
    .of "listen_port" readUInt16 (·.listenPort) fun p v => { p with listenPort := some v },
    .of "store_host" .text (·.storeHost) fun p v => { p with storeHost := some v },
    .of "store_port" readUInt16 (·.storePort) fun p v => { p with storePort := some v },
    .of "store_scheme" .text (·.storeScheme) fun p v => { p with storeScheme := some v },
    .of "ready_attempts" readUInt32 (·.readyAttempts) fun p v =>
      { p with readyAttempts := some v },
    .of "ready_delay_secs" readUInt64 (·.readyDelay) fun p v => { p with readyDelay := some v },
    .of "request_timeout_secs" readUInt64 (·.requestTimeout) fun p v =>
      { p with requestTimeout := some v }]
  complete _ p := .ok p.complete

def toJson (s : Settings) : Json := .object [
  ("listen_port", .nat s.listenPort.toNat),
  ("store_host", .text s.storeHost),
  ("store_port", .nat s.storePort.toNat),
  ("store_scheme", .text s.storeScheme),
  ("ready_attempts", .nat s.readyAttempts.toNat),
  ("ready_delay_secs", .nat s.readyDelay.toNat),
  ("request_timeout_secs", .nat s.requestTimeout.toNat)]

end Settings

end GraphIngest
