import Std.Async
import Std.Http
import GraphIngest.CommandLine.Command
import GraphIngest.Http.Wire
import GraphIngest.Rpc.Service

/-!
# The program

Reads the command line, the environment and the file of settings, runs the command, and prints what
becomes of it. Requests go out over TCP, and the service is a server on the port of the settings.
-/

namespace GraphIngest

namespace Program

open Std.Async Std.Net

/-! ## Files -/

/-- What a path leads to. -/
def entryAt (path : String) : IO (Option DiskEntry) := do
  try
    return some (.file (Symbol.ofBytes (← IO.FS.readBinFile path).toList))
  catch
    | .noFileOrDirectory .. => return none
    | _ => return some .directory

/-- What a path leads through, and what it leads to. -/
def snapshot (path : String) : IO Disk := do
  let mut entries := []
  let mut here := if path.startsWith "/" then "/" else ""
  let mut place := Disk.origin path
  for name in Disk.names path do
    here := here ++ name
    if let .ok next := Disk.enter place name then
      place := next
      if let some entry ← entryAt here then entries := entries ++ [(place, entry)]
    here := here ++ "/"
  return ⟨entries⟩

/-! ## Requests -/

/-- The name of a host as an address is looked up by it. -/
def hostName (u : Url) : String :=
  match u.host with
  | some (.ipv6 pieces) => String.ofList (Host.ipv6Text pieces)
  | some host => String.ofList host.render
  | none => ""

def socketAddress (port : UInt16) : IPAddr → SocketAddress
  | .v4 address => .v4 ⟨address, port⟩
  | .v6 address => .v6 ⟨address, port⟩

/-- A connection to the first address that takes one. -/
def connect (port : UInt16) : List IPAddr → Async TCP.Socket.Client
  | [] => throw (IO.userError "no address")
  | address :: rest => do
    let socket ← TCP.Socket.Client.mk
    try
      socket.connect (socketAddress port address)
      return socket
    catch _ => connect port rest

/-- The bytes that came over a connection, and whether it was closed. -/
structure Arrival where
  bytes : List UInt8 := []
  closed : Bool := false

/-- The response in what came so far. -/
def Arrival.response? (a : Arrival) : Option Response := Response.ofWire? a.closed a.bytes

/-- Take what comes until there is a whole response, or until nothing more comes. -/
partial def receive (socket : TCP.Socket.Client) (arrived : IO.Ref Arrival) : Async Unit := do
  match ← socket.recv? 65536 with
  | none => arrived.modify fun a => { a with closed := true }
  | some chunk =>
    arrived.modify fun a => { a with bytes := a.bytes ++ chunk.toList }
    match (← arrived.get).response? with
    | some ⟨_, _, .complete _⟩ => return
    | _ => receive socket arrived

/-- Send a request and take its response. -/
def exchange (r : Request) (arrived : IO.Ref Arrival) : Async Unit := do
  let port := r.url.port.getD 80
  let addresses ← DNS.getAddrInfo (hostName r.url) (toString port)
  let socket ← connect port.toUInt16 addresses.toList
  socket.send r.wire.toUTF8
  receive socket arrived

/-- Send a request. What has not come after so many milliseconds does not count. -/
def send (patience : Nat) (r : Request) : IO Reply := do
  let arrived ← IO.mkRef {}
  let work : Async Unit := do
    try exchange r arrived catch _ => return
  (work.race (sleep (.ofNat (min patience (2147483648))))).block
  match (← arrived.get).response? with
  | some response => return .response response
  | none => return .undelivered

/-- Do what a piece of work asks for. -/
def answer (patience : Nat) : (c : HttpCall) → IO c.Answer
  | .send r => send patience r
  | .pause millis => IO.sleep (min millis 4294967295).toUInt32

/-- Show an event to who wants to see events. -/
def observe (verbose : Bool) (e : Event) : IO Unit := do
  if verbose then IO.println e.line

/-- Do a piece of work. -/
def perform (verbose : Bool) (patience : Nat) (work : HttpDialogue α) : IO α :=
  work.perform (answer patience) (observe verbose)

/-! ## Serving -/

/-- What a caller sends. -/
def serviceRequest (r : Std.Http.Request Std.Http.Body.Stream) : ContextAsync ServiceRequest := do
  let body : ByteArray ← r.body.readAll
  return {
    method := toString r.line.method
    target := toString r.line.uri
    contentType := (r.line.headers.get? .contentType).map (·.value)
    body := Symbol.ofBytes body.toList }

/-- The response that carries a reply. -/
def response (reply : ServiceReply) : ContextAsync (Std.Http.Response Std.Http.Body.Any) :=
  let status := (Std.Http.Status.ofCode none reply.status.toUInt16).getD .internalServerError
  let builder := Std.Http.Response.withStatus status
  match reply.body with
  | some body => builder.json body.render
  | none => builder.empty

/-- Serve until the program is told to stop. -/
def serve (verbose : Bool) (patience : Nat) (settings : Settings) (store : HttpStore) :
    IO Unit := do
  let handler := Std.Http.Server.Handler.ofFn fun r => do
    let work := (← serviceRequest r).reply.via store.answer
    response (← (perform verbose patience work : IO ServiceReply))
  let address := socketAddress settings.listenPort (.v4 (.ofParts 0 0 0 0))
  let server ← (Std.Http.Server.serve address handler).block
  let interrupt ← Signal.Waiter.mk .sigint false
  let terminate ← Signal.Waiter.mk .sigterm false
  let stop := (Async.ofIOTask interrupt.wait).race (Async.ofIOTask terminate.wait)
  let _ ← stop.block
  server.shutdownAndWait.block

/-! ## Running -/

/-- Variables that options fall back to. -/
def environment : IO (List (String × String)) :=
  Overrides.arguments.filterMapM fun a => do
    match a.fallback with
    | some name => return (← IO.getEnv name).map (name, ·)
    | none => return none

/-- Print what the caller is to see. -/
def finish (e : Exit) : IO UInt32 := do
  match e.printed with
  | some (output, errors) =>
    IO.print output
    IO.eprint errors
  | none => IO.eprint (Topic.program.page (← environment) false)
  return e.code.toUInt32

/-- Write the file that a command wrote. -/
def keep (command : Command) (disk : Disk) : IO Unit := do
  match command, disk.find command.path with
  | .init path _, .ok (.file content) => IO.FS.writeFile path (Symbol.lossy content)
  | _, _ => return

/-- Run what was invoked. -/
def run (i : Invocation) : IO UInt32 := do
  let disk ← snapshot i.command.path
  let patience := i.command.patience disk
  match ← perform i.verbose patience (i.command.run disk) with
  | .outcome o =>
    if o.printed.toBool then keep i.command o.disk
    finish (.ofOutcome o)
  | .serving settings store =>
    serve i.verbose patience settings store
    return 0

end Program

end GraphIngest

open GraphIngest in
/-- Run the program. -/
def main (line : List String) : IO UInt32 := do
  let env ← Program.environment
  match Invocation.parse line env with
  | .error r => Program.finish (.ofRefusal env r)
  | .ok i =>
    try Program.run i
    catch e => Program.finish ⟨1, some ("", "Error: " ++ toString e ++ "\n")⟩
