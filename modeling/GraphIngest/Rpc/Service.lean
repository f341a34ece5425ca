import GraphIngest.Ingest
import GraphIngest.Rpc.MediaType
import GraphIngest.Rpc.Message

/-!
# The service

Callers post a request to the path of a method. One method is served: it ingests a batch.

## Main definitions

* `ServiceRequest`, `ServiceReply`: what callers send and get.
* `ServiceRequest.batch`: the batch that a request asks to ingest, or what the caller is told.
* `ServiceRequest.reply`: the work of answering a request.
-/

namespace GraphIngest

/-- What a caller sends. -/
structure ServiceRequest where
  method : String
  /-- A path, and perhaps a query. -/
  target : String
  contentType : Option String
  body : List Symbol
  deriving Repr, Inhabited

/-- What a caller gets. A body is JSON. -/
structure ServiceReply where
  status : Nat
  body : Option Json := none
  deriving Repr, Inhabited

/-- What is known about a path. -/
inductive Route where
  | ingest
  /-- A method that is not served. -/
  | unserved (name : String)
  deriving DecidableEq, Repr, Inhabited

namespace Route

def path : Route → String
  | ingest => "/ast.ASTGraphService/IngestAST"
  | unserved name => "/ast.ASTGraphService/" ++ name

def all : List Route :=
  ingest :: ["GetASTNodes", "UpdateASTNodes", "DeleteASTNodes", "TraverseGraph"].map unserved

/-- What is known about a path; paths are compared as they are written. -/
def ofPath? (path : String) : Option Route := all.find? (·.path = path)

end Route

/-! ## Replies -/

namespace ServiceReply

/-- The reply to a request that failed. -/
def failed (e : ErrorReply) : ServiceReply := ⟨e.code.httpStatus, some e.toJson⟩

/-- The reply to a request whose batch was ingested, or was not. -/
def ofResult : Except Error Summary → ServiceReply
  | .ok s => ⟨200, some (IngestReply.toJson ⟨true, s.message, s.nodeIds⟩)⟩
  | .error e => failed ⟨.internal, e.message⟩

/-- The reply where there is no such path. -/
def unknownPath : ServiceReply := ⟨404, none⟩

/-- The reply to a request that is no post. -/
def wrongMethod : ServiceReply := ⟨405, none⟩

end ServiceReply

namespace ServiceRequest

/-- The path of a request, without a query. -/
def path (r : ServiceRequest) : String :=
  String.ofList (r.target.toList.takeWhile fun c => c ≠ '?' ∧ c ≠ '#')

/-! ## Bodies -/

/-- Whether the body is said to be JSON. -/
def isJson (r : ServiceRequest) : Bool :=
  ((r.contentType.bind MediaType.parse?).map MediaType.isJson).getD false

/-- How many bytes a body may have. -/
def greatestBody : Nat := 2097152

/-- What a caller is told about a body that cannot be read. -/
def readFailure (e : ReadError) : String :=
  match e.kind with
  | .malformed | .ended => "Failed to parse the request body as JSON: " ++ e.located
  | .mismatch => "Failed to deserialize the JSON body into the target type: " ++ e.located

/-- The batch that a request asks to ingest, or what the caller is told instead. -/
def batch (r : ServiceRequest) : Except String IngestRequest :=
  if !r.isJson then .error "Expected request with \x60Content-Type: application/json\x60"
  else if greatestBody < Symbol.byteLength r.body then
    .error "Failed to buffer the request body: length limit exceeded"
  else (IngestRequest.format.read.run r.body).mapError readFailure

/-! ## Answering -/

/-- Ingest the batch that a request holds. -/
def replyToIngest (r : ServiceRequest) : StoreDialogue ServiceReply :=
  match r.batch with
  | .error message => return .failed ⟨.invalidArgument, message⟩
  | .ok batch => do return .ofResult (← (Batch.ofJson batch).ingest)

/-- Answer a request. -/
def reply (r : ServiceRequest) : StoreDialogue ServiceReply :=
  match Route.ofPath? r.path with
  | none => return .unknownPath
  | some route =>
    if r.method ≠ "POST" then return .wrongMethod
    else
      match route with
      | .ingest => r.replyToIngest
      | .unserved name => return .failed ⟨.unimplemented, "method " ++ name ++ " not implemented"⟩

end ServiceRequest

end GraphIngest
