import SqlMapper.C.Literal
import SqlMapper.C.Printer
import SqlMapper.C.Syntax
import SqlMapper.Code.BindPass
import SqlMapper.Code.Buffer
import SqlMapper.Code.Compiled
import SqlMapper.Code.Function
import SqlMapper.Code.Names
import SqlMapper.Code.RecordType
import SqlMapper.Code.Slots
import SqlMapper.Code.Support
import SqlMapper.Code.Support.Header
import SqlMapper.Code.Support.Source
import SqlMapper.CommandLine.Commands
import SqlMapper.CommandLine.Flags
import SqlMapper.CommandLine.Run
import SqlMapper.CommandLine.Session
import SqlMapper.Files.Discovery
import SqlMapper.Files.Glob
import SqlMapper.Files.Path
import SqlMapper.Files.Volume
import SqlMapper.Files.Watch
import SqlMapper.Log.Entry
import SqlMapper.Log.Line
import SqlMapper.Main
import SqlMapper.Mapper.Document
import SqlMapper.Mapper.Error
import SqlMapper.Mapper.Placeholder
import SqlMapper.Mapper.Shape
import SqlMapper.Mapper.Statement
import SqlMapper.Mapper.Store
import SqlMapper.Number.Binary64
import SqlMapper.Number.Reading
import SqlMapper.Number.Shortest
import SqlMapper.Number.Total
import SqlMapper.Predicate.Condition
import SqlMapper.Predicate.Evaluation
import SqlMapper.Predicate.Expression
import SqlMapper.Predicate.Token
import SqlMapper.Predicate.Value
import SqlMapper.Project.Generation
import SqlMapper.Project.Loading
import SqlMapper.Project.Preview
import SqlMapper.Project.Report
import SqlMapper.Project.Scaffolding
import SqlMapper.Proofs.Compilation
import SqlMapper.Proofs.Outcome
import SqlMapper.Proofs.Placeholder.Count
import SqlMapper.Proofs.Placeholder.Plain
import SqlMapper.Proofs.Placeholder.Scan
import SqlMapper.Proofs.Rendering
import SqlMapper.Proofs.Trimming
import SqlMapper.Schema.Database
import SqlMapper.Schema.Introspection
import SqlMapper.Schema.Scaffold
import SqlMapper.Schema.Server
import SqlMapper.Settings.Basic
import SqlMapper.Settings.Binding
import SqlMapper.Settings.Loading
import SqlMapper.Settings.Saving
import SqlMapper.Settings.Sources
import SqlMapper.Settings.Variables
import SqlMapper.Sql.Identifier
import SqlMapper.Sql.Prepared
import SqlMapper.Sql.Record
import SqlMapper.Sql.Rendering
import SqlMapper.Sql.Trim
import SqlMapper.Table
import SqlMapper.Terminal.Escape
import SqlMapper.Terminal.Layout
import SqlMapper.Terminal.Markup
import SqlMapper.Terminal.Pen
import SqlMapper.Terminal.Wrapping
import SqlMapper.Text.Base64
import SqlMapper.Text.Blank
import SqlMapper.Text.Cluster
import SqlMapper.Text.Cluster.Class
import SqlMapper.Text.Order
import SqlMapper.Text.Printable
import SqlMapper.Text.Quoted
import SqlMapper.Text.Search
import SqlMapper.Text.Template
import SqlMapper.Text.Upper
import SqlMapper.Text.Utf16
import SqlMapper.Text.Utf8
import SqlMapper.Text.Width
import SqlMapper.Version.Basic
import SqlMapper.Version.Constraint
import SqlMapper.Version.Release
import SqlMapper.Xml.Document
import SqlMapper.Xml.Name
import SqlMapper.Xml.Token
import SqlMapper.Xml.Tree
import SqlMapper.Xml.Writer
import SqlMapper.Yaml.Block
import SqlMapper.Yaml.Character
import SqlMapper.Yaml.Document
import SqlMapper.Yaml.Gap
import SqlMapper.Yaml.Node
import SqlMapper.Yaml.Place
import SqlMapper.Yaml.Plain
import SqlMapper.Yaml.Quote
import SqlMapper.Yaml.Scalar
import SqlMapper.Yaml.Tag
import SqlMapper.Yaml.Token
import SqlMapper.Yaml.Tree
import SqlMapper.Yaml.Writer
import SqlMapper.Proofs.Placeholder.Seams
import SqlMapper.Proofs.Placeholder.Soundness
import SqlMapper.Proofs.Buffer.Semantics
import SqlMapper.Proofs.Buffer.Scope
import SqlMapper.Proofs.Buffer.Correctness
import SqlMapper.Proofs.Condition.Grammar
import SqlMapper.Proofs.Condition.Lexing
import SqlMapper.Proofs.Condition.Meaning
import SqlMapper.Proofs.Noninterference
import SqlMapper.Proofs.Placeholder.Composition
import SqlMapper.Proofs.Predicate.Lexing
import SqlMapper.Proofs.Predicate.Grammar
import SqlMapper.Proofs.BindPass.Machine
import SqlMapper.Proofs.Encoding
import SqlMapper.Proofs.BindPass.Turns
import SqlMapper.Proofs.BindPass.Correctness
import SqlMapper.Proofs.Scaffold.Presence
import SqlMapper.Proofs.Scaffold.Statements
import SqlMapper.Proofs.Scaffold.Selective
import SqlMapper.Proofs.Decoding
import SqlMapper.Proofs.Xml.CharacterData
import SqlMapper.Proofs.Xml.Tags
import SqlMapper.Proofs.Xml.RoundTrip
import SqlMapper.Proofs.Document.Acceptance
import SqlMapper.Proofs.Scaffold.Writing
import SqlMapper.Proofs.Generation.Workers
import SqlMapper.Proofs.Generation.Calls
import SqlMapper.Proofs.Generation.InOrder
import SqlMapper.Proofs.Generation.Schedules
import SqlMapper.Proofs.Files.Paths
import SqlMapper.Proofs.Files.Frame
import SqlMapper.Proofs.Generation.Ownership
import SqlMapper.Proofs.Store.Additions
import SqlMapper.Proofs.Store.Registry
import SqlMapper.Proofs.Compilation.Conditions
import SqlMapper.Proofs.Scaffold.Tables
import SqlMapper.Proofs.Placeholder.Sealed
import SqlMapper.Proofs.Scaffold.Compilation
import SqlMapper.Proofs.Files.Growth
import SqlMapper.Proofs.Files.Selection
import SqlMapper.Proofs.Files.Walks
import SqlMapper.Proofs.Files.Rediscovery
import SqlMapper.Proofs.Files.Rewriting
import SqlMapper.Proofs.Generation.Regeneration
import SqlMapper.Proofs.Placeholder.Pieces
import SqlMapper.Proofs.Placeholder.Bytes
import SqlMapper.Proofs.Placeholder.Encoded
import SqlMapper.Proofs.Predicate.Joining
import SqlMapper.Proofs.Predicate.Parentheses
import SqlMapper.Proofs.Predicate.Rereading
import SqlMapper.Proofs.Lookup
import SqlMapper.Proofs.Settings.Variables
import SqlMapper.Proofs.Settings.Precedence
import SqlMapper.Proofs.Brackets.Emitted
import SqlMapper.Proofs.Compilation.Declarations
import SqlMapper.Proofs.Document.Cuts
import SqlMapper.Proofs.Trimming.Windows
import SqlMapper.Proofs.Trimming.Texts
import SqlMapper.Proofs.Records.Typing
import SqlMapper.Proofs.Records.Bindings
import SqlMapper.Proofs.Compilation.Warnings
import SqlMapper.Proofs.Condition.Integers
import SqlMapper.Proofs.Files.Trees
import SqlMapper.Proofs.Files.Discovery
import SqlMapper.Proofs.Search
import SqlMapper.Proofs.Schema.Kinds
import SqlMapper.Proofs.Schema.Tolerance
import SqlMapper.Proofs.Schema.Replies
import SqlMapper.Proofs.Schema.Inquiry
import SqlMapper.Proofs.Files.Creation
import SqlMapper.Proofs.Digits
import SqlMapper.Proofs.Yaml.Places
import SqlMapper.Proofs.Yaml.Scalars
import SqlMapper.Proofs.Yaml.Lines
import SqlMapper.Proofs.Yaml.Styles
import SqlMapper.Proofs.Yaml.Blocks
import SqlMapper.Proofs.Yaml.Documents
import SqlMapper.Proofs.Settings.Saving
import SqlMapper.Proofs.Literal.Bytes
import SqlMapper.Proofs.Quoting
import SqlMapper.Proofs.Scaffold.Identifiers
import SqlMapper.Proofs.Schema.Quotation
