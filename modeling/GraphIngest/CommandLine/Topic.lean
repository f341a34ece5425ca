import GraphIngest.CommandLine.Arguments
import GraphIngest.Config.Source

/-!
# Topics of a command line

## Main definitions

* `Topic`: what a line can be about, the program as a whole or one of its commands.
* `Topic.arguments`: the options that a topic knows.
* `Topic.about`, `Topic.details`: what a topic is for.
-/

namespace GraphIngest

/-! ## Options -/

def helpArgument : Argument where
  name := "help"
  about := "Print help"
  short := some 'h'
  kind := .help

/-- Options of the program and of every command. -/
def globalArguments : List Argument := [
  { name := "verbose", about := "Enable verbose logging", short := some 'v', kind := .switch },
  { name := "config", about := "Path to the config file", short := some 'c', kind := .path }]

/-- Options that override settings. -/
def Overrides.arguments : List Argument := [
  { name := "port", about := "RPC listen port", kind := .port, fallback := some "GRPC_PORT" },
  { name := "store-host", about := "Store host", kind := .text, fallback := some "WEAVIATE_HOST" },
  { name := "store-port", about := "Store port", kind := .port, fallback := some "WEAVIATE_PORT" }]

def versionArgument : Argument where
  name := "version"
  about := "Print version"
  short := some 'V'
  kind := .version

def pathArgument : Argument where
  name := "path"
  about := "Where to write the config file"
  short := some 'p'
  kind := .path
  otherwise := some Settings.defaultPath

def forceArgument : Argument where
  name := "force"
  about := "Overwrite an existing file"
  kind := .switch

/-! ## Topics -/

/-- What a line can be about. -/
inductive Topic where
  | program
  | serve
  | ready
  | init
  | help
  deriving DecidableEq, Repr, Inhabited

namespace Topic

/-- The name of the program, or of a command. -/
def name : Topic → String
  | program => "astgraph-proxy"
  | serve => "serve"
  | ready => "ready"
  | init => "init"
  | help => "help"

def version : String := "0.0.1"

def commands : List Topic := [serve, ready, init, help]

/-- The command of a name. -/
def ofName? (name : String) : Option Topic := commands.find? (·.name = name)

/-- The options of a topic, first its own and then those that others have, too. -/
def arguments : Topic → List Argument
  | program => globalArguments ++ [helpArgument, versionArgument]
  | serve | ready => Overrides.arguments ++ globalArguments ++ [helpArgument]
  | init => [pathArgument, forceArgument] ++ globalArguments ++ [helpArgument]
  | help => []

/-- What a topic is for, in one line. -/
def about : Topic → String
  | program =>
    "AST graph ingestion proxy - writes AST nodes and typed edges into an object store"
  | serve => "Wait for the store, then serve the RPC surface"
  | ready => "Wait for the store to become ready and exit"
  | init => "Write a config file with default values"
  | help => "Print this message or the help of the given subcommand(s)"

/-- What a topic is for, at length. -/
def details? : Topic → Option String
  | program => some (
    "Serves the IngestAST RPC: a batch of AST nodes is written to the store as\n" ++
    "ASTNode objects in one batched call, then each relationship is created as a\n" ++
    "cross-reference, in order. Any store failure aborts the call.\n\n" ++
    "Example usage:\n" ++
    "  astgraph-proxy serve --store-host weaviate --store-port 8080\n" ++
    "  astgraph-proxy ready\n" ++
    "  astgraph-proxy init --path astgraph.toml\n")
  | serve | ready | init | help => none

end Topic

end GraphIngest
