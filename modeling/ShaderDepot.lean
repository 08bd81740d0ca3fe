import ShaderDepot.ChangeQueue
import ShaderDepot.CommandLine.Arguments
import ShaderDepot.CommandLine.Console
import ShaderDepot.CommandLine.Run
import ShaderDepot.CommandLine.Scan
import ShaderDepot.CompileUnit
import ShaderDepot.Define
import ShaderDepot.Depot
import ShaderDepot.Device
import ShaderDepot.Device.Call
import ShaderDepot.Device.Compiler
import ShaderDepot.Diagnostic
import ShaderDepot.Directive
import ShaderDepot.Handle
import ShaderDepot.IncludeGraph
import ShaderDepot.IncludeGraph.Includers
import ShaderDepot.IncludeGraph.Load
import ShaderDepot.IncludeGraph.Order
import ShaderDepot.Log
import ShaderDepot.Main
import ShaderDepot.Path
import ShaderDepot.Pattern
import ShaderDepot.Pattern.CharSet
import ShaderDepot.Pattern.Class
import ShaderDepot.Pattern.Cursor
import ShaderDepot.Pattern.Escape
import ShaderDepot.Pattern.Fault
import ShaderDepot.Pattern.Form
import ShaderDepot.Pattern.Matcher
import ShaderDepot.Pattern.Meaning
import ShaderDepot.Pattern.Reading
import ShaderDepot.Pattern.Span
import ShaderDepot.Pipeline
import ShaderDepot.Program
import ShaderDepot.Settings
import ShaderDepot.Settings.Reading
import ShaderDepot.Stage
import ShaderDepot.Storage
import ShaderDepot.Storage.Disk
import ShaderDepot.Storage.Location
import ShaderDepot.Storage.OsPath
import ShaderDepot.Table
import ShaderDepot.Text.Alphabetic
import ShaderDepot.Text.Blank
import ShaderDepot.Text.Lines
import ShaderDepot.Text.Numeral
import ShaderDepot.Text.Quoted
import ShaderDepot.Text.Terminal
import ShaderDepot.Text.Unseen
import ShaderDepot.Text.Utf8
import ShaderDepot.Toml.Document
import ShaderDepot.Toml.Token
import ShaderDepot.Toml.Value
import ShaderDepot.Traced
import ShaderDepot.Uniform
import ShaderDepot.Uniform.Binary
import ShaderDepot.Watch
import ShaderDepot.Proofs.Device.Journal
import ShaderDepot.Proofs.IncludeGraph.Settled
import ShaderDepot.Proofs.IncludeGraph.Loading
import ShaderDepot.Proofs.IncludeGraph.Reach
import ShaderDepot.Proofs.IncludeGraph.Renaming
import ShaderDepot.Proofs.Device.Protocol
import ShaderDepot.Proofs.Device.Numbers
import ShaderDepot.Proofs.Device.Sound
import ShaderDepot.Proofs.Program.Use
import ShaderDepot.Proofs.Program.Compile
import ShaderDepot.Proofs.Pipeline.Rebuild
import ShaderDepot.Proofs.Depot.Views
import ShaderDepot.Proofs.Depot.Reload
import ShaderDepot.Proofs.Depot.Invariant
import ShaderDepot.Proofs.Depot.Programs
import ShaderDepot.Proofs.Depot.Pipelines
import ShaderDepot.Proofs.Depot.Requests
import ShaderDepot.Proofs.Session.Coherence
import ShaderDepot.Proofs.Session.CallOrder
import ShaderDepot.Proofs.Depot.UpToDate
import ShaderDepot.Proofs.Session.HotReload
import ShaderDepot.Proofs.Depot.Books
import ShaderDepot.Proofs.IncludeGraph.Built
import ShaderDepot.Proofs.Text.Pieces
import ShaderDepot.Proofs.Path
import ShaderDepot.Proofs.IncludeGraph.Keys
import ShaderDepot.Proofs.Depot.Growth
import ShaderDepot.Proofs.Session.Paths
import ShaderDepot.Proofs.Table
import ShaderDepot.Proofs.Uniform
import ShaderDepot.Proofs.Device.Contents
import ShaderDepot.Proofs.Program.Mirror
import ShaderDepot.Proofs.Program.Replay
import ShaderDepot.Proofs.Depot.Mirror
import ShaderDepot.Proofs.Session.Retained
import ShaderDepot.Proofs.IncludeGraph.Order
import ShaderDepot.Proofs.IncludeGraph.Trails
import ShaderDepot.Proofs.IncludeGraph.Ranks
import ShaderDepot.Proofs.IncludeGraph.Cycles
import ShaderDepot.Proofs.IncludeGraph.Depths
import ShaderDepot.Proofs.IncludeGraph.Sources
import ShaderDepot.Proofs.Text.Numeral
import ShaderDepot.Proofs.Text.Lines
import ShaderDepot.Proofs.Text.Trim
import ShaderDepot.Proofs.Device.Complaints
import ShaderDepot.Proofs.Directive
import ShaderDepot.Proofs.Directive.Grammar
import ShaderDepot.Proofs.CompileUnit.Sections
import ShaderDepot.Proofs.CompileUnit.Localized
import ShaderDepot.Proofs.CompileUnit.Layout
import ShaderDepot.Proofs.CompileUnit.Reports
import ShaderDepot.Proofs.CompileUnit.Annotated
import ShaderDepot.Proofs.Program.Reports
import ShaderDepot.Proofs.Depot.CompileErrors
import ShaderDepot.Proofs.Device.Frame
import ShaderDepot.Proofs.Program.Outcome
import ShaderDepot.Proofs.Pipeline.Binding
import ShaderDepot.Proofs.Depot.Binding
import ShaderDepot.Proofs.Depot.Steps
import ShaderDepot.Proofs.Depot.Listed
import ShaderDepot.Proofs.Depot.Ownership
import ShaderDepot.Proofs.Session.Ownership
import ShaderDepot.Proofs.Depot.Tracked
import ShaderDepot.Proofs.Session.Binding
import ShaderDepot.Proofs.Session.Dispatch
import ShaderDepot.Proofs.Depot.Concerns
import ShaderDepot.Proofs.Depot.Refreshed
import ShaderDepot.Proofs.Session.Updates
import ShaderDepot.Proofs.Depot.Filed
import ShaderDepot.Proofs.Session.Sharing
import ShaderDepot.Proofs.Depot.Attempts
import ShaderDepot.Proofs.Depot.Counts
import ShaderDepot.Proofs.Session.Accounts
import ShaderDepot.Proofs.Workshop
import ShaderDepot.Proofs.Workshop.Soundness
import ShaderDepot.Proofs.Workshop.Alone
import ShaderDepot.Proofs.Workshop.Agreement
import ShaderDepot.Proofs.IncludeGraph.Closure
import ShaderDepot.Proofs.IncludeGraph.Discovery
import ShaderDepot.Proofs.IncludeGraph.Interning
import ShaderDepot.Proofs.IncludeGraph.Ascending
import ShaderDepot.Proofs.IncludeGraph.Rereading
import ShaderDepot.Proofs.Session.Spurious
import ShaderDepot.Proofs.Storage.Places
import ShaderDepot.Proofs.Storage.Caches
import ShaderDepot.Proofs.Storage.Overwriting
import ShaderDepot.Proofs.Storage.Components
import ShaderDepot.Proofs.Watch
import ShaderDepot.Proofs.Path.Respelling
import ShaderDepot.Proofs.Define
import ShaderDepot.Proofs.CommandLine.Writing
