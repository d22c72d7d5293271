import ObjectBridge.Bench.Basic
import ObjectBridge.Bench.Nodes
import ObjectBridge.Bench.Plugins
import ObjectBridge.Bench.Report
import ObjectBridge.Bench.Run
import ObjectBridge.Bridge.Accessor
import ObjectBridge.Bridge.Failure
import ObjectBridge.Bridge.Host
import ObjectBridge.Bridge.MemoryHost
import ObjectBridge.Bridge.Native
import ObjectBridge.Bridge.Ownership
import ObjectBridge.Bridge.Proxy
import ObjectBridge.Bridge.Runtime
import ObjectBridge.Bridge.ScriptHost
import ObjectBridge.Bridge.Watch
import ObjectBridge.Bridge.World
import ObjectBridge.Builtin.Behaviour
import ObjectBridge.Builtin.StandIn
import ObjectBridge.Data.Dict
import ObjectBridge.Data.Json
import ObjectBridge.Data.Json.Document
import ObjectBridge.Decimal.Notation
import ObjectBridge.Decimal.Reader
import ObjectBridge.Files.Glob
import ObjectBridge.Files.Glob.Pattern
import ObjectBridge.Files.Tree
import ObjectBridge.Graph.Assemble
import ObjectBridge.Graph.Basic
import ObjectBridge.Graph.Class
import ObjectBridge.Graph.Walk
import ObjectBridge.Http.Address
import ObjectBridge.Http.Cors
import ObjectBridge.Http.Message
import ObjectBridge.Http.RateLimit
import ObjectBridge.Http.Redirect
import ObjectBridge.Id.Ulid
import ObjectBridge.Log
import ObjectBridge.Manifest.Basic
import ObjectBridge.Manifest.Json
import ObjectBridge.Manifest.Load
import ObjectBridge.Manifest.Path
import ObjectBridge.Manifest.Refusal
import ObjectBridge.Manifest.Toml
import ObjectBridge.Manifest.Toml.Declared
import ObjectBridge.Manifest.Toml.Expression
import ObjectBridge.Manifest.Yaml
import ObjectBridge.Manifest.Yaml.Anchors
import ObjectBridge.Manifest.Yaml.Block
import ObjectBridge.Manifest.Yaml.Lexer
import ObjectBridge.Manifest.Yaml.Node
import ObjectBridge.Manifest.Yaml.Phrase
import ObjectBridge.Manifest.Yaml.Quoted
import ObjectBridge.Manifest.Yaml.Token
import ObjectBridge.Manifest.Yaml.Tokens
import ObjectBridge.Manifest.Yaml.Value
import ObjectBridge.Metrics.Basic
import ObjectBridge.Metrics.Event
import ObjectBridge.Plugin.Instance
import ObjectBridge.Plugin.Pool
import ObjectBridge.Plugin.Session
import ObjectBridge.Profile
import ObjectBridge.Proofs.Bridge.Accessor
import ObjectBridge.Proofs.Bridge.Binding
import ObjectBridge.Proofs.Bridge.Books
import ObjectBridge.Proofs.Bridge.Budget
import ObjectBridge.Proofs.Bridge.Closing
import ObjectBridge.Proofs.Bridge.Conservation
import ObjectBridge.Proofs.Bridge.Custody
import ObjectBridge.Proofs.Bridge.Dues
import ObjectBridge.Proofs.Bridge.Enumeration
import ObjectBridge.Proofs.Bridge.ExistenceCheck
import ObjectBridge.Proofs.Bridge.Holdings
import ObjectBridge.Proofs.Bridge.Hosts
import ObjectBridge.Proofs.Bridge.Leaves
import ObjectBridge.Proofs.Bridge.Marshalling
import ObjectBridge.Proofs.Bridge.NativeValue
import ObjectBridge.Proofs.Bridge.Perform
import ObjectBridge.Proofs.Bridge.Reporting
import ObjectBridge.Proofs.Bridge.Request
import ObjectBridge.Proofs.Bridge.Resolution
import ObjectBridge.Proofs.Bridge.RoundTrip
import ObjectBridge.Proofs.Bridge.ScriptView
import ObjectBridge.Proofs.Bridge.Silent
import ObjectBridge.Proofs.Bridge.Standing
import ObjectBridge.Proofs.Bridge.Stopping
import ObjectBridge.Proofs.Bridge.Storing
import ObjectBridge.Proofs.Bridge.Tallies
import ObjectBridge.Proofs.Bridge.Writing
import ObjectBridge.Proofs.Builtin.Arrays
import ObjectBridge.Proofs.Builtin.Counter
import ObjectBridge.Proofs.Builtin.Dues
import ObjectBridge.Proofs.Builtin.Getters
import ObjectBridge.Proofs.Builtin.Leaves
import ObjectBridge.Proofs.Builtin.Timing
import ObjectBridge.Proofs.Builtin.Unnoticed
import ObjectBridge.Proofs.Data.Dict
import ObjectBridge.Proofs.Decimal.Whole
import ObjectBridge.Proofs.Graph.Assemble
import ObjectBridge.Proofs.Graph.Build
import ObjectBridge.Proofs.Graph.Canonical
import ObjectBridge.Proofs.Graph.Chain
import ObjectBridge.Proofs.Graph.Description
import ObjectBridge.Proofs.Graph.Drafts
import ObjectBridge.Proofs.Graph.Listing
import ObjectBridge.Proofs.Graph.Nearest
import ObjectBridge.Proofs.Graph.Reach
import ObjectBridge.Proofs.Graph.Relocation
import ObjectBridge.Proofs.Graph.Settled
import ObjectBridge.Proofs.Graph.Traversal
import ObjectBridge.Proofs.Graph.Walk
import ObjectBridge.Proofs.Http.RateLimit
import ObjectBridge.Proofs.Id.Digits
import ObjectBridge.Proofs.Id.Grammar
import ObjectBridge.Proofs.Id.Text
import ObjectBridge.Proofs.Manifest.Load
import ObjectBridge.Proofs.Manifest.Merge
import ObjectBridge.Proofs.Manifest.Overlay
import ObjectBridge.Proofs.Manifest.Path
import ObjectBridge.Proofs.Manifest.Reordering
import ObjectBridge.Proofs.Manifest.Valid
import ObjectBridge.Proofs.Manifest.WellFormed
import ObjectBridge.Proofs.Metrics.Agreement
import ObjectBridge.Proofs.Plugin.Clients
import ObjectBridge.Proofs.Plugin.Copy
import ObjectBridge.Proofs.Plugin.Crew
import ObjectBridge.Proofs.Plugin.Inventory
import ObjectBridge.Proofs.Plugin.Isolation
import ObjectBridge.Proofs.Plugin.Lifecycle
import ObjectBridge.Proofs.Plugin.Making
import ObjectBridge.Proofs.Plugin.Pool
import ObjectBridge.Proofs.Plugin.Renewal
import ObjectBridge.Proofs.Plugin.Roster
import ObjectBridge.Proofs.Plugin.Session
import ObjectBridge.Proofs.Plugin.Usage
import ObjectBridge.Proofs.Profile
import ObjectBridge.Proofs.Script.Global
import ObjectBridge.Proofs.Script.Relocation
import ObjectBridge.Proofs.Text.Rejection
import ObjectBridge.Proofs.Text.Utf8
import ObjectBridge.Proofs.Text.Wide
import ObjectBridge.Proofs.Trace.Delivery
import ObjectBridge.Proofs.Trace.Locking
import ObjectBridge.Proofs.Trace.Notes
import ObjectBridge.Proofs.Trace.Steps
import ObjectBridge.Script.Builtins
import ObjectBridge.Script.Completion
import ObjectBridge.Script.Convert
import ObjectBridge.Script.Direct
import ObjectBridge.Script.Heap
import ObjectBridge.Script.Key
import ObjectBridge.Script.Machine
import ObjectBridge.Script.Parser
import ObjectBridge.Script.Property
import ObjectBridge.Script.Realm
import ObjectBridge.Script.Step
import ObjectBridge.Script.Syntax
import ObjectBridge.Script.Text
import ObjectBridge.Script.Token
import ObjectBridge.Server.Basic
import ObjectBridge.Server.Console
import ObjectBridge.Server.Evaluate
import ObjectBridge.Server.Listen
import ObjectBridge.Server.Route
import ObjectBridge.Settings.Basic
import ObjectBridge.Settings.Duration
import ObjectBridge.Settings.Number
import ObjectBridge.Text.Base64
import ObjectBridge.Text.Case
import ObjectBridge.Text.Quoted
import ObjectBridge.Text.NameChar
import ObjectBridge.Text.Regex
import ObjectBridge.Text.Regex.Parser
import ObjectBridge.Text.Template
import ObjectBridge.Text.Utf8
import ObjectBridge.Text.Wide
import ObjectBridge.Trace
import ObjectBridge.Trace.Traffic
import ObjectBridge.Value.Variant
import ObjectBridge.Value.Identifier
import ObjectBridge.Value.RefCount
