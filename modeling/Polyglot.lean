import Polyglot.Catalog.Basic
import Polyglot.Catalog.Build
import Polyglot.Catalog.Builtin
import Polyglot.Catalog.Supply
import Polyglot.Catalog.Yaml
import Polyglot.CommandLine.Arguments
import Polyglot.CommandLine.Fault
import Polyglot.CommandLine.Help
import Polyglot.CommandLine.Invocation
import Polyglot.CommandLine.Run
import Polyglot.Decimal.Shortest
import Polyglot.Decode.Format
import Polyglot.Decode.Problem
import Polyglot.Dispatch.Chain
import Polyglot.Dispatch.KindIndex
import Polyglot.Dispatch.Rule
import Polyglot.Dispatch.Strategy
import Polyglot.Entries
import Polyglot.Files.Expression
import Polyglot.Files.Glob
import Polyglot.Files.Layout
import Polyglot.Files.Path
import Polyglot.Files.Scan
import Polyglot.Files.Tree
import Polyglot.Json.Format
import Polyglot.Json.Printer
import Polyglot.Json.Reader
import Polyglot.Json.Value
import Polyglot.Language.Builder
import Polyglot.Language.Error
import Polyglot.Language.Extension
import Polyglot.Language.Module
import Polyglot.Language.Registry
import Polyglot.Language.Table
import Polyglot.Language.Version
import Polyglot.Log.Event
import Polyglot.Log.Record
import Polyglot.Report.Language
import Polyglot.Report.Page
import Polyglot.Report.Style
import Polyglot.Report.Summary
import Polyglot.Text.Blank
import Polyglot.Text.Outline
import Polyglot.Text.Quoted
import Polyglot.Text.Unprintable
import Polyglot.Yaml.Cursor
import Polyglot.Yaml.Document
import Polyglot.Yaml.Folding
import Polyglot.Yaml.Format
import Polyglot.Yaml.Lexeme
import Polyglot.Yaml.Node
import Polyglot.Yaml.Plain
import Polyglot.Yaml.Scalar
import Polyglot.Yaml.Scan
import Polyglot.Yaml.Tag
import Polyglot.Yaml.Token
import Polyglot.Main
import Polyglot.Proofs.Dispatch.Chain
import Polyglot.Proofs.Dispatch.KindIndex
import Polyglot.Proofs.Language.Record
import Polyglot.Proofs.FirstError
import Polyglot.Proofs.Language.Registry
import Polyglot.Proofs.Language.Query
import Polyglot.Proofs.Language.Insertion
import Polyglot.Proofs.Language.Request
import Polyglot.Proofs.Language.Resolve
import Polyglot.Proofs.Text.ByteOrder
import Polyglot.Proofs.Text.Trim
import Polyglot.Proofs.Catalog.Entry
import Polyglot.Proofs.Catalog.Build
import Polyglot.Proofs.Catalog.Lookup
import Polyglot.Proofs.Catalog.Requests
import Polyglot.Proofs.Dispatch.Calls
import Polyglot.Proofs.Language.Extension
import Polyglot.Proofs.Language.Keys
import Polyglot.Proofs.Language.Settings
import Polyglot.Proofs.Catalog.Reorder
import Polyglot.Proofs.Report.Language
import Polyglot.Proofs.Dispatch.History
import Polyglot.Proofs.Dispatch.Candidates
import Polyglot.Proofs.Dispatch.Partition
import Polyglot.Proofs.Dispatch.Pieces
import Polyglot.Proofs.Report.Summary
import Polyglot.Proofs.Files.Tree
import Polyglot.Proofs.Files.Scan
import Polyglot.Proofs.Json.Layout
import Polyglot.Proofs.Report.Page
import Polyglot.Proofs.CommandLine.Patterns
import Polyglot.Proofs.CommandLine.Outcome
import Polyglot.Proofs.Language.Default
import Polyglot.Proofs.Language.Offence
import Polyglot.Proofs.Language.Recognition
import Polyglot.Proofs.Files.Addition
import Polyglot.Proofs.Files.Path
import Polyglot.Proofs.Files.Detection
import Polyglot.Proofs.Catalog.Log
import Polyglot.Proofs.Language.Order
import Polyglot.Proofs.Language.Spelling
import Polyglot.Proofs.Json.FieldOrder
import Polyglot.Proofs.Report.RoundTrip
