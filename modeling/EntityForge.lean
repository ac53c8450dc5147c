import EntityForge.Calendar.Civil
import EntityForge.Calendar.Instant
import EntityForge.Calendar.Reading
import EntityForge.Command.Listing
import EntityForge.Command.Records
import EntityForge.Command.Request
import EntityForge.Command.Run
import EntityForge.Command.Session
import EntityForge.Command.Summary
import EntityForge.CommandLine.Help
import EntityForge.CommandLine.Invocation
import EntityForge.CommandLine.Program
import EntityForge.CommandLine.Reading
import EntityForge.CommandLine.Refusal
import EntityForge.CommandLine.Similarity
import EntityForge.CommandLine.Spec
import EntityForge.Decimal.Exact
import EntityForge.Decimal.Fixed
import EntityForge.Decimal.Reading
import EntityForge.Decimal.Shortest
import EntityForge.Generation.Failure
import EntityForge.Generation.Options
import EntityForge.Generation.SchemaFile
import EntityForge.Generation.Settings
import EntityForge.Generation.Sources
import EntityForge.Generation.TemplateFile
import EntityForge.Grid.Basic
import EntityForge.Grid.Drawing
import EntityForge.Grid.Sizing
import EntityForge.Grid.Style
import EntityForge.Grid.Wrapping
import EntityForge.Java.ClassText
import EntityForge.Java.Identifier
import EntityForge.Java.Style
import EntityForge.Journal.Filter
import EntityForge.Journal.Line
import EntityForge.Journal.Record
import EntityForge.Json.Decode
import EntityForge.Json.Number
import EntityForge.Json.Printer
import EntityForge.Json.Reader
import EntityForge.Json.Value
import EntityForge.Main
import EntityForge.Model.Ascending
import EntityForge.Model.Entity
import EntityForge.Model.Extraction
import EntityForge.Model.JavaType
import EntityForge.Model.Loading
import EntityForge.Model.Naming
import EntityForge.Model.Schema
import EntityForge.Model.TypeTable
import EntityForge.Pattern.Basic
import EntityForge.Pattern.Class
import EntityForge.Pattern.CodeSet
import EntityForge.Pattern.Reading
import EntityForge.Storage.Path
import EntityForge.Storage.Tree
import EntityForge.Template.Argument
import EntityForge.Template.Arrangement
import EntityForge.Template.Directory
import EntityForge.Template.Error
import EntityForge.Template.Expression
import EntityForge.Template.Filter
import EntityForge.Template.Format
import EntityForge.Template.Line
import EntityForge.Template.Member
import EntityForge.Template.Node
import EntityForge.Template.Operator
import EntityForge.Template.Order
import EntityForge.Template.Rendering
import EntityForge.Template.Shown
import EntityForge.Template.State
import EntityForge.Template.Statement
import EntityForge.Template.Test
import EntityForge.Template.Token
import EntityForge.Template.Value
import EntityForge.Text.Blank
import EntityForge.Text.Case
import EntityForge.Text.CaseTable
import EntityForge.Text.Cluster
import EntityForge.Text.ClusterTable
import EntityForge.Text.Escape
import EntityForge.Text.Letter
import EntityForge.Text.LetterTable
import EntityForge.Text.Numeral
import EntityForge.Text.Quoted
import EntityForge.Text.QuotedTable
import EntityForge.Text.Ranges
import EntityForge.Text.Width
import EntityForge.Text.WidthTable
import EntityForge.Toml.Fault
import EntityForge.Toml.Moment
import EntityForge.Toml.Quoted
import EntityForge.Toml.Reader
import EntityForge.Toml.Scalar
import EntityForge.Toml.Syntax
import EntityForge.Toml.Table
import EntityForge.Toml.Token
import EntityForge.Toml.Unescaped
import EntityForge.Toml.Value
import EntityForge.Word
import EntityForge.Xml.Document
import EntityForge.Xml.Element
import EntityForge.Xml.Event
import EntityForge.Xml.Fault
import EntityForge.Xml.Reference
import EntityForge.Xml.Tag
import EntityForge.Proofs.Outcome
import EntityForge.Proofs.Text.Runs
import EntityForge.Proofs.Text.Numerals
import EntityForge.Proofs.Calendar.Days
import EntityForge.Proofs.Calendar.Instants
import EntityForge.Proofs.Json.Scalars
import EntityForge.Proofs.Json.Values
import EntityForge.Proofs.Json.Records
import EntityForge.Proofs.Storage.Resolution
import EntityForge.Proofs.Storage.Directories
import EntityForge.Proofs.Storage.Files
import EntityForge.Proofs.Generation.Planning
import EntityForge.Proofs.Generation.Writing
import EntityForge.Proofs.Generation.Keeping
import EntityForge.Proofs.Generation.Repetition
import EntityForge.Proofs.Generation.Conflicts
import EntityForge.Proofs.Xml.Grammar
import EntityForge.Proofs.Xml.References
import EntityForge.Proofs.Xml.Tags
import EntityForge.Proofs.Xml.Markup
import EntityForge.Proofs.Xml.Reading
import EntityForge.Proofs.Xml.Elements
import EntityForge.Proofs.Xml.Insertion
import EntityForge.Proofs.Model.Extensions
import EntityForge.Proofs.Model.Extraction
import EntityForge.Proofs.Model.UnknownElements
import EntityForge.Proofs.Model.KeyChain
import EntityForge.Proofs.Model.Rearrangement
import EntityForge.Proofs.Model.Loading
import EntityForge.Proofs.Model.Prefixes
import EntityForge.Proofs.Model.PrimaryKey
import EntityForge.Proofs.Model.Defects
import EntityForge.Proofs.Model.Schema
import EntityForge.Proofs.Model.TypeTables
import EntityForge.Proofs.Xml.Tokens
import EntityForge.Proofs.Xml.Steps
import EntityForge.Proofs.Xml.Truncation
import EntityForge.Proofs.Xml.Assignments
import EntityForge.Proofs.Xml.Nesting
import EntityForge.Proofs.Xml.Places
import EntityForge.Proofs.Xml.DocumentOrder
import EntityForge.Proofs.Text.Case
import EntityForge.Proofs.Java.Comments
import EntityForge.Proofs.Storage.Components
import EntityForge.Proofs.Text.Ascii
import EntityForge.Proofs.Model.Naming
import EntityForge.Proofs.Model.CamelForms
import EntityForge.Proofs.Generation.Containment
import EntityForge.Proofs.Generation.PackageDirectories
import EntityForge.Proofs.Generation.TableClashes
import EntityForge.Proofs.Command.DryRuns
import EntityForge.Proofs.Toml.Escapes
import EntityForge.Proofs.Toml.Quoted
import EntityForge.Proofs.Toml.Documents
import EntityForge.Proofs.Generation.Settings
import EntityForge.Proofs.Java.ClassComment
import EntityForge.Proofs.Java.Packages
import EntityForge.Proofs.Java.Imports
import EntityForge.Proofs.Java.Skeleton
import EntityForge.Proofs.Java.Accessors
import EntityForge.Proofs.Java.Literals
import EntityForge.Proofs.Java.Annotations
import EntityForge.Proofs.Calendar.Gregorian
import EntityForge.Proofs.Generation.CreationDates
import EntityForge.Proofs.Generation.FieldNames
import EntityForge.Proofs.Generation.Overrides
import EntityForge.Proofs.Model.Numbers
import EntityForge.Proofs.Command.SchemaFiles
import EntityForge.Proofs.Command.Summaries
import EntityForge.Proofs.CommandLine.Views
import EntityForge.Proofs.CommandLine.JournalSwitches
import EntityForge.Proofs.Command.Journals
import EntityForge.Proofs.Command.Records
