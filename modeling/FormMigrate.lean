import FormMigrate.Ambiguity.Encoding
import FormMigrate.Ambiguity.Log
import FormMigrate.App.Basic
import FormMigrate.App.Run
import FormMigrate.App.Session
import FormMigrate.Builder.Arguments
import FormMigrate.Builder.Field
import FormMigrate.Builder.Form
import FormMigrate.Builder.FormOptions
import FormMigrate.Builder.Select
import FormMigrate.Call.Pass
import FormMigrate.Call.Site
import FormMigrate.CommandLine.Flag
import FormMigrate.CommandLine.Request
import FormMigrate.CommandLine.Usage
import FormMigrate.ConfigFile
import FormMigrate.Environment
import FormMigrate.File.Disk
import FormMigrate.File.Fault
import FormMigrate.File.Path
import FormMigrate.File.Replacement
import FormMigrate.File.Templates
import FormMigrate.File.Workspace
import FormMigrate.Focus
import FormMigrate.Hcl.Evaluation
import FormMigrate.Hcl.Reader
import FormMigrate.Hcl.Settings
import FormMigrate.Hcl.Syntax
import FormMigrate.Hcl.Template
import FormMigrate.Hcl.Token
import FormMigrate.Hcl.Type
import FormMigrate.Hcl.Value
import FormMigrate.Invocation
import FormMigrate.Journal
import FormMigrate.Json.Printer
import FormMigrate.Json.Reader
import FormMigrate.Literal.Failure
import FormMigrate.Literal.Printer
import FormMigrate.Literal.Reader
import FormMigrate.Literal.Token
import FormMigrate.Literal.Value
import FormMigrate.Main
import FormMigrate.Manifest.Archive
import FormMigrate.Manifest.Document
import FormMigrate.Manifest.Rollback
import FormMigrate.Number.Binary64
import FormMigrate.Number.Decimal
import FormMigrate.Number.Integer
import FormMigrate.Number.Numeral
import FormMigrate.Number.WideFloat
import FormMigrate.Number.WideText
import FormMigrate.Number.Word
import FormMigrate.ProgramFailure
import FormMigrate.Proofs.Call.Accounting
import FormMigrate.Proofs.Call.Course
import FormMigrate.Proofs.Call.Occurrence
import FormMigrate.Proofs.Call.Simulation
import FormMigrate.Proofs.Call.Substitution
import FormMigrate.Proofs.Literal.Nesting
import FormMigrate.Proofs.Rule.Balance
import FormMigrate.Proofs.Rule.FixedPoint
import FormMigrate.Proofs.Rule.Nesting
import FormMigrate.Proofs.Rule.Replies
import FormMigrate.Proofs.Rule.Selection
import FormMigrate.Proofs.Scan.Enclosing
import FormMigrate.Proofs.Scan.Extent
import FormMigrate.Proofs.Scan.Nesting
import FormMigrate.Proofs.Scan.Segments
import FormMigrate.Proofs.Text.Byte
import FormMigrate.Proofs.Text.Fold
import FormMigrate.Proofs.Text.Slice
import FormMigrate.Proofs.Text.Utf8
import FormMigrate.Report.Console
import FormMigrate.Report.Diff
import FormMigrate.Rule
import FormMigrate.Run.Memory
import FormMigrate.Run.Migration
import FormMigrate.Run.Store
import FormMigrate.Scan.Argument
import FormMigrate.Scan.Bracket
import FormMigrate.Scan.Quote
import FormMigrate.Settings
import FormMigrate.Text.Base64
import FormMigrate.Text.Blank
import FormMigrate.Text.Bytes
import FormMigrate.Text.CanonicalMapping
import FormMigrate.Text.Case
import FormMigrate.Text.CaseRange
import FormMigrate.Text.Clip
import FormMigrate.Text.CombiningClass
import FormMigrate.Text.Identifier
import FormMigrate.Text.Normal
import FormMigrate.Text.Printable
import FormMigrate.Text.Quoted
import FormMigrate.Text.Utf8
import FormMigrate.Yaml.Cursor
import FormMigrate.Yaml.Meaning
import FormMigrate.Yaml.Node
import FormMigrate.Yaml.Scalar
import FormMigrate.Yaml.Settings
import FormMigrate.Yaml.Source
import FormMigrate.Yaml.Tag
import FormMigrate.Yaml.Timestamp
import FormMigrate.Yaml.Token
import FormMigrate.Proofs.Literal.Grammar
import FormMigrate.Proofs.Literal.Strings
import FormMigrate.Proofs.Literal.Completeness
import FormMigrate.Proofs.Literal.Acceptance
import FormMigrate.Proofs.Literal.Boundaries
import FormMigrate.Proofs.Run.Backup
import FormMigrate.Proofs.Number.Digits
import FormMigrate.Proofs.Number.Rounding
import FormMigrate.Proofs.Number.Shortest
import FormMigrate.Proofs.Number.Positional
import FormMigrate.Proofs.Literal.Decimals
import FormMigrate.Proofs.Literal.RoundTrip
import FormMigrate.Proofs.Run.Course
import FormMigrate.Proofs.Run.Handling
import FormMigrate.Proofs.Run.Preview
import FormMigrate.Proofs.Run.History
import FormMigrate.Proofs.File.Path
import FormMigrate.Proofs.File.Disk
import FormMigrate.Proofs.File.Service
import FormMigrate.Proofs.App.Session
import FormMigrate.Proofs.Run.Service
import FormMigrate.Proofs.App.Pass
import FormMigrate.Proofs.App.Preview
import FormMigrate.Proofs.State
import FormMigrate.Proofs.Text.Encoding
import FormMigrate.Proofs.Json.Text
import FormMigrate.Proofs.Json.RoundTrip
import FormMigrate.Proofs.Manifest.Document
import FormMigrate.Proofs.File.Writing
import FormMigrate.Proofs.Run.Applied
import FormMigrate.Proofs.File.Noting
import FormMigrate.Proofs.Manifest.Archive
import FormMigrate.Proofs.Manifest.Rollback
import FormMigrate.Proofs.App.Rollback
import FormMigrate.Proofs.Run.Composition
import FormMigrate.Proofs.Rule.Location
import FormMigrate.Proofs.Run.Location
import FormMigrate.Proofs.Run.Order
import FormMigrate.Proofs.Manifest.History
import FormMigrate.Proofs.Literal.Spellings
import FormMigrate.Proofs.Literal.WholeNumbers
import FormMigrate.Proofs.Scan.Arguments
import FormMigrate.Proofs.Rule.Chain
import FormMigrate.Proofs.Rule.Arrangement
import FormMigrate.Proofs.Call.Strings
import FormMigrate.Proofs.Rule.Verbatim
import FormMigrate.Proofs.Literal.Keys
import FormMigrate.Proofs.Literal.Arrays
import FormMigrate.Proofs.Literal.Positions
import FormMigrate.Proofs.Rule.StaticArrays
import FormMigrate.Proofs.Rule.Choice
import FormMigrate.Proofs.Rule.FormOptions
import FormMigrate.Proofs.Rule.FormOpening
import FormMigrate.Proofs.Scan.Matching
import FormMigrate.Proofs.Scan.Cutting
import FormMigrate.Proofs.Literal.Reindexing
import FormMigrate.Proofs.Manifest.Isolation
import FormMigrate.Proofs.Text.Lines
import FormMigrate.Proofs.Report.Diff
import FormMigrate.Proofs.Json.Integers
import FormMigrate.Proofs.Ambiguity.Decoding
import FormMigrate.Proofs.Focus.Selection
import FormMigrate.Proofs.Indexed.Sweep
import FormMigrate.Proofs.Text.Clip
import FormMigrate.Proofs.Text.Order
import FormMigrate.Proofs.File.Descent
import FormMigrate.Proofs.File.Discovery
