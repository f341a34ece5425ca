import GraphIngest.CommandLine.Arguments
import GraphIngest.CommandLine.Command
import GraphIngest.CommandLine.Help
import GraphIngest.CommandLine.Topic
import GraphIngest.Config.Disk
import GraphIngest.Config.Document
import GraphIngest.Config.Settings
import GraphIngest.Config.Source
import GraphIngest.Decimal.Binary
import GraphIngest.Decimal.Layout
import GraphIngest.Decimal.Reader
import GraphIngest.Decimal.Shortest
import GraphIngest.Dialogue
import GraphIngest.Error
import GraphIngest.Event
import GraphIngest.Graph.Basic
import GraphIngest.Graph.Json
import GraphIngest.Http.Exchange
import GraphIngest.Http.Message
import GraphIngest.Http.Status
import GraphIngest.Http.Store
import GraphIngest.Http.Wire
import GraphIngest.Ingest
import GraphIngest.Json.Draft
import GraphIngest.Json.Error
import GraphIngest.Json.Numeral
import GraphIngest.Json.Quoted
import GraphIngest.Json.Reader
import GraphIngest.Json.Record
import GraphIngest.Json.Token
import GraphIngest.Json.Value
import GraphIngest.Main
import GraphIngest.Mismatch
import GraphIngest.Payload
import GraphIngest.Proofs.Dialogue.Course
import GraphIngest.Proofs.Dialogue.Laws
import GraphIngest.Proofs.Dialogue.Lockstep
import GraphIngest.Proofs.Dialogue.Pool
import GraphIngest.Proofs.Dialogue.Walk
import GraphIngest.Proofs.Graph.Accepted
import GraphIngest.Proofs.Graph.Node
import GraphIngest.Proofs.Graph.Written
import GraphIngest.Proofs.Http.Address
import GraphIngest.Proofs.Http.Contact
import GraphIngest.Proofs.Http.Endpoint
import GraphIngest.Proofs.Http.NodeBody
import GraphIngest.Proofs.Http.NodePhase
import GraphIngest.Proofs.Http.Readiness
import GraphIngest.Proofs.Http.Redirect
import GraphIngest.Proofs.Http.Writes
import GraphIngest.Proofs.Ingest.Acknowledgement
import GraphIngest.Proofs.Ingest.Annotations
import GraphIngest.Proofs.Ingest.Calls
import GraphIngest.Proofs.Ingest.Concurrent
import GraphIngest.Proofs.Ingest.Logging
import GraphIngest.Proofs.Ingest.Outcome
import GraphIngest.Proofs.Ingest.Phases
import GraphIngest.Proofs.Json.Meaning
import GraphIngest.Proofs.Json.Members
import GraphIngest.Proofs.Json.Normal
import GraphIngest.Proofs.Json.Reader
import GraphIngest.Proofs.Json.Record
import GraphIngest.Proofs.Json.Spelled
import GraphIngest.Proofs.Json.Token
import GraphIngest.Proofs.Json.WellFormed
import GraphIngest.Proofs.Json.Written
import GraphIngest.Proofs.Rpc.Canonical
import GraphIngest.Proofs.Rpc.Reply
import GraphIngest.Proofs.Rpc.Request
import GraphIngest.Proofs.Rpc.RoundTrip
import GraphIngest.Proofs.Store.Omission
import GraphIngest.Proofs.Store.Reply
import GraphIngest.Proofs.Toml.Quoted
import GraphIngest.Proofs.Url.Authority
import GraphIngest.Proofs.Url.Host
import GraphIngest.Proofs.Url.Path
import GraphIngest.Proofs.Url.Percent
import GraphIngest.Proofs.Url.Segments
import GraphIngest.Rpc.Code
import GraphIngest.Rpc.MediaType
import GraphIngest.Rpc.Message
import GraphIngest.Rpc.Service
import GraphIngest.Store.Address
import GraphIngest.Store.Call
import GraphIngest.Store.Object
import GraphIngest.Store.Rendition
import GraphIngest.Store.Result
import GraphIngest.Text.Blank
import GraphIngest.Text.CodeRange
import GraphIngest.Text.CombiningClass
import GraphIngest.Text.Composition
import GraphIngest.Text.Digit
import GraphIngest.Text.Direction
import GraphIngest.Text.Invisible
import GraphIngest.Text.Joining
import GraphIngest.Text.Mark
import GraphIngest.Text.Separated
import GraphIngest.Text.Shown
import GraphIngest.Text.Symbol
import GraphIngest.Text.Visible
import GraphIngest.Toml.Reader
import GraphIngest.Toml.Scalar
import GraphIngest.Toml.Table
import GraphIngest.Toml.Text
import GraphIngest.Toml.Value
import GraphIngest.Toml.Writer
import GraphIngest.Url.Basic
import GraphIngest.Url.Domain
import GraphIngest.Url.Domain.Form
import GraphIngest.Url.Domain.Label
import GraphIngest.Url.Host
import GraphIngest.Url.Path
import GraphIngest.Url.Percent
import GraphIngest.Url.Punycode
import GraphIngest.Url.Reader
import GraphIngest.Proofs.Toml.Document
import GraphIngest.Proofs.Config.Disk
import GraphIngest.Proofs.Config.Saved
import GraphIngest.Proofs.Toml.Table
import GraphIngest.Proofs.Config.Layers
import GraphIngest.Proofs.Json.Grammar
