import IntentSpec.Check.Command
import IntentSpec.Check.Draft
import IntentSpec.Check.File
import IntentSpec.Check.Gate
import IntentSpec.Check.Http
import IntentSpec.Check.Machine
import IntentSpec.Check.Outcome
import IntentSpec.Check.Receipt
import IntentSpec.Check.Registry
import IntentSpec.Check.Settings
import IntentSpec.Check.Verify
import IntentSpec.Check.World
import IntentSpec.Cli.Boundary
import IntentSpec.Cli.Grammar
import IntentSpec.Cli.Invocation
import IntentSpec.Cli.Reading
import IntentSpec.Cli.Session
import IntentSpec.Cli.Workflow
import IntentSpec.Config.Layers
import IntentSpec.Config.Load
import IntentSpec.Config.Schema
import IntentSpec.Datum.Basic
import IntentSpec.Datum.Export
import IntentSpec.Datum.Field
import IntentSpec.Datum.Moment
import IntentSpec.Datum.Order
import IntentSpec.Datum.Shown
import IntentSpec.Document.Artifact
import IntentSpec.Document.Line
import IntentSpec.Document.Scan
import IntentSpec.Document.Table
import IntentSpec.Failure.Errno
import IntentSpec.Failure.Graph
import IntentSpec.Files.Tree
import IntentSpec.Files.Write
import IntentSpec.Hash.Sha256
import IntentSpec.Hostname.Basic
import IntentSpec.Hostname.Composed
import IntentSpec.Hostname.Direction
import IntentSpec.Hostname.Joining
import IntentSpec.Hostname.Lowered
import IntentSpec.Hostname.Marks
import IntentSpec.Hostname.Punycode
import IntentSpec.Hostname.Valid
import IntentSpec.Json.Basic
import IntentSpec.Json.Printer
import IntentSpec.Json.Reader
import IntentSpec.Log.Event
import IntentSpec.Log.Redact
import IntentSpec.Main
import IntentSpec.Number.Binary64
import IntentSpec.Number.Power
import IntentSpec.Number.Reader
import IntentSpec.Number.Shortest
import IntentSpec.Path.Basic
import IntentSpec.Predicate.Extract
import IntentSpec.Predicate.Params
import IntentSpec.Predicate.Plan
import IntentSpec.Process.Calculation
import IntentSpec.Process.Condition
import IntentSpec.Process.Filter
import IntentSpec.Process.Host
import IntentSpec.Process.Launch
import IntentSpec.Process.Output
import IntentSpec.Process.Pattern
import IntentSpec.Process.Program
import IntentSpec.Process.Run
import IntentSpec.Process.Script.Reader
import IntentSpec.Process.Script.Token
import IntentSpec.Process.Script.Word
import IntentSpec.Process.Shell.Basic
import IntentSpec.Process.Shell.Builtin
import IntentSpec.Process.Shell.Command
import IntentSpec.Process.Shell.Control
import IntentSpec.Process.Shell.Expansion
import IntentSpec.Proofs.Attempt
import IntentSpec.Proofs.Check.Account
import IntentSpec.Proofs.Check.Answer
import IntentSpec.Proofs.Check.Course
import IntentSpec.Proofs.Check.Gathering
import IntentSpec.Proofs.Check.Location
import IntentSpec.Proofs.Check.Planned
import IntentSpec.Proofs.Check.Question
import IntentSpec.Proofs.Check.Registry
import IntentSpec.Proofs.Check.Selection
import IntentSpec.Proofs.Check.Transport
import IntentSpec.Proofs.Check.Verdict
import IntentSpec.Proofs.Cli.Boundary
import IntentSpec.Proofs.Cli.Course
import IntentSpec.Proofs.Cli.Guard
import IntentSpec.Proofs.Cli.Preparation
import IntentSpec.Proofs.Config.Findings
import IntentSpec.Proofs.Config.Issues
import IntentSpec.Proofs.Config.Layers
import IntentSpec.Proofs.Config.Merge
import IntentSpec.Proofs.Config.Placement
import IntentSpec.Proofs.Config.Precedence
import IntentSpec.Proofs.Config.Schema
import IntentSpec.Proofs.Config.Tree
import IntentSpec.Proofs.Datum.Lookup
import IntentSpec.Proofs.Datum.Reading
import IntentSpec.Proofs.Datum.Shown
import IntentSpec.Proofs.Document.Agreement
import IntentSpec.Proofs.Document.Arrangement
import IntentSpec.Proofs.Document.Artifacts
import IntentSpec.Proofs.Document.Binding
import IntentSpec.Proofs.Document.Closed
import IntentSpec.Proofs.Document.Comment
import IntentSpec.Proofs.Document.Cursor
import IntentSpec.Proofs.Document.Detection
import IntentSpec.Proofs.Document.Ending
import IntentSpec.Proofs.Document.Entries
import IntentSpec.Proofs.Document.Faultless
import IntentSpec.Proofs.Document.Forms
import IntentSpec.Proofs.Document.Opening
import IntentSpec.Proofs.Document.Outline
import IntentSpec.Proofs.Document.Phrase
import IntentSpec.Proofs.Document.Reading
import IntentSpec.Proofs.Document.Recognise
import IntentSpec.Proofs.Document.Rows
import IntentSpec.Proofs.Document.Segment
import IntentSpec.Proofs.Document.Table
import IntentSpec.Proofs.Document.Values
import IntentSpec.Proofs.Document.Whole
import IntentSpec.Proofs.Failure.Chain
import IntentSpec.Proofs.Failure.Order
import IntentSpec.Proofs.Failure.Reachable
import IntentSpec.Proofs.Files.Course
import IntentSpec.Proofs.Files.Tree
import IntentSpec.Proofs.Files.Write
import IntentSpec.Proofs.Json.Alike
import IntentSpec.Proofs.Json.Brackets
import IntentSpec.Proofs.Json.Plain
import IntentSpec.Proofs.Json.Quote
import IntentSpec.Proofs.Json.Throughout
import IntentSpec.Proofs.Json.Word
import IntentSpec.Proofs.Json.Writable
import IntentSpec.Proofs.Log.Address
import IntentSpec.Proofs.Log.Form
import IntentSpec.Proofs.Log.Masked
import IntentSpec.Proofs.Log.Repeated
import IntentSpec.Proofs.Log.Search
import IntentSpec.Proofs.Log.Secret
import IntentSpec.Proofs.Number.Rounding
import IntentSpec.Proofs.Path.Normal
import IntentSpec.Proofs.Predicate.Acceptance
import IntentSpec.Proofs.Predicate.Block
import IntentSpec.Proofs.Predicate.Declared
import IntentSpec.Proofs.Predicate.Faithful
import IntentSpec.Proofs.Predicate.Parameters
import IntentSpec.Proofs.Predicate.Routing
import IntentSpec.Proofs.Report.Canonical
import IntentSpec.Proofs.Report.Entry
import IntentSpec.Proofs.Report.Exchange
import IntentSpec.Proofs.Report.Normal
import IntentSpec.Proofs.Report.Reading
import IntentSpec.Proofs.Report.Schema
import IntentSpec.Proofs.Report.Summary
import IntentSpec.Proofs.Rule.Association
import IntentSpec.Proofs.Rule.Ending
import IntentSpec.Proofs.Rule.Explicit
import IntentSpec.Proofs.Rule.Fault
import IntentSpec.Proofs.Rule.Finding
import IntentSpec.Proofs.Rule.Joint
import IntentSpec.Proofs.Rule.Leakage
import IntentSpec.Proofs.Rule.Redeclared
import IntentSpec.Proofs.Rule.Reordered
import IntentSpec.Proofs.Rule.Signal
import IntentSpec.Proofs.Rule.Spilled
import IntentSpec.Proofs.Rule.Verdict
import IntentSpec.Proofs.Sorting
import IntentSpec.Proofs.Store.History
import IntentSpec.Proofs.Text.Class
import IntentSpec.Proofs.Text.Lines
import IntentSpec.Proofs.Text.Numeral
import IntentSpec.Proofs.Text.Pieces
import IntentSpec.Proofs.Text.Spelling
import IntentSpec.Proofs.Toml.Document
import IntentSpec.Proofs.Toml.Table
import IntentSpec.Report.Basic
import IntentSpec.Report.Reading
import IntentSpec.Report.Summary
import IntentSpec.Rule.Basic
import IntentSpec.Rule.Leak
import IntentSpec.Rule.Validate
import IntentSpec.Sorting
import IntentSpec.Store.Receipts
import IntentSpec.Text.Alphanumeric
import IntentSpec.Text.Case
import IntentSpec.Text.Character
import IntentSpec.Text.Numeral
import IntentSpec.Text.Pieces
import IntentSpec.Text.Printable
import IntentSpec.Text.Utf8
import IntentSpec.Toml.Document
import IntentSpec.Toml.Number
import IntentSpec.Toml.Table
import IntentSpec.Toml.Text
import IntentSpec.Url.Basic
