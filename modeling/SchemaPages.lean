import SchemaPages.CommandLine.Arguments
import SchemaPages.CommandLine.Failure
import SchemaPages.CommandLine.Logging
import SchemaPages.CommandLine.Match
import SchemaPages.CommandLine.Option
import SchemaPages.CommandLine.Output
import SchemaPages.CommandLine.Run
import SchemaPages.CommandLine.Settings
import SchemaPages.Data.Decode
import SchemaPages.Data.Encode
import SchemaPages.Data.Json.Number
import SchemaPages.Data.Json.Printer
import SchemaPages.Data.Json.Reader
import SchemaPages.Data.Json.Token
import SchemaPages.Data.Sort
import SchemaPages.Data.Toml.Printer
import SchemaPages.Data.Toml.Reader
import SchemaPages.Data.Toml.Scalar
import SchemaPages.Data.Toml.Table
import SchemaPages.Data.Value
import SchemaPages.Data.Yaml.Cursor
import SchemaPages.Data.Yaml.Node
import SchemaPages.Data.Yaml.Printer
import SchemaPages.Data.Yaml.Resolve
import SchemaPages.Data.Yaml.Scalar
import SchemaPages.Data.Yaml.Shaped
import SchemaPages.Data.Yaml.Token
import SchemaPages.Decimal.Notation
import SchemaPages.Decimal.Shortest
import SchemaPages.Decimal.Width
import SchemaPages.Files.FileSystem
import SchemaPages.Files.Path
import SchemaPages.Import.BasicTypes
import SchemaPages.Import.Closure
import SchemaPages.Import.SchemaFile
import SchemaPages.Import.Source
import SchemaPages.Import.Stack
import SchemaPages.Main
import SchemaPages.Schema.Basic
import SchemaPages.Schema.Cardinality
import SchemaPages.Schema.Class
import SchemaPages.Schema.Condition
import SchemaPages.Schema.Element
import SchemaPages.Schema.Slot
import SchemaPages.Schema.Terminal
import SchemaPages.Site.Basic
import SchemaPages.Site.Config
import SchemaPages.Site.Diagram
import SchemaPages.Site.Examples
import SchemaPages.Site.Generation
import SchemaPages.Site.Link
import SchemaPages.Site.Options
import SchemaPages.Site.Outline
import SchemaPages.Site.Page
import SchemaPages.Site.PageContent
import SchemaPages.Site.Plan
import SchemaPages.Template.Builtin
import SchemaPages.Template.Filter
import SchemaPages.Template.Reader
import SchemaPages.Template.Render
import SchemaPages.Template.Set
import SchemaPages.Text.Canonical
import SchemaPages.Text.CaseStyle
import SchemaPages.Text.Character
import SchemaPages.Text.Quoted
import SchemaPages.Text.Split
import SchemaPages.Text.Table.Alphanumeric
import SchemaPages.Text.Table.CaseMap
import SchemaPages.Text.Table.Cased
import SchemaPages.Text.Table.Letter
import SchemaPages.Text.Table.Printable
import SchemaPages.Text.Table.Word
import SchemaPages.View.Ancestry
import SchemaPages.View.Basic
import SchemaPages.View.Elements
import SchemaPages.View.Induced
import SchemaPages.View.Uri
import SchemaPages.View.Walk
import SchemaPages.Proofs.DepthFirst
import SchemaPages.Proofs.Preorder
import SchemaPages.Proofs.Import.Graph
import SchemaPages.Proofs.Files.Actions
import SchemaPages.Proofs.Files.Relative
import SchemaPages.Proofs.Import.Root
import SchemaPages.Proofs.Import.Failure
import SchemaPages.Proofs.Import.Order
import SchemaPages.Proofs.Import.Reports
import SchemaPages.Proofs.Site.Dangling
import SchemaPages.Proofs.Site.Writing
import SchemaPages.Proofs.Site.Applicability
import SchemaPages.Proofs.Site.Shadowing
import SchemaPages.Proofs.Site.Subjects
import SchemaPages.Proofs.Site.Containment
import SchemaPages.Proofs.View.Definitions
import SchemaPages.Proofs.Import.Precedence
import SchemaPages.Proofs.Import.Contents
import SchemaPages.Proofs.Files.Components
import SchemaPages.Proofs.Template.Shapes
import SchemaPages.Proofs.Site.PageShapes
import SchemaPages.Proofs.Site.Rendering
import SchemaPages.Proofs.Site.ClassTree
import SchemaPages.Proofs.Site.References
import SchemaPages.Proofs.Data.Records
import SchemaPages.Proofs.Data.Compact
import SchemaPages.Proofs.Template.Lines
import SchemaPages.Proofs.Template.Tables
import SchemaPages.Proofs.Template.LineBreaks
import SchemaPages.Proofs.Template.Sets
import SchemaPages.Proofs.Site.TableRows
import SchemaPages.Proofs.Site.Tables
import SchemaPages.Proofs.Schema.RoundTrip
import SchemaPages.Proofs.Site.Diagrams
import SchemaPages.Proofs.Site.DiagramTexts
import SchemaPages.Proofs.CommandLine.Reading
import SchemaPages.Proofs.CommandLine.Reports
import SchemaPages.Proofs.CommandLine.Runs
import SchemaPages.Proofs.CommandLine.DryRun
import SchemaPages.Proofs.Schema.Merging
import SchemaPages.Proofs.View.Induced
import SchemaPages.Proofs.View.Specificity
import SchemaPages.Proofs.View.Parentage
import SchemaPages.Proofs.Data.Json
import SchemaPages.Proofs.Data.Tables
import SchemaPages.Proofs.Data.Toml.Texts
import SchemaPages.Proofs.Data.Toml.Documents
import SchemaPages.Proofs.Data.Yaml.Plain
import SchemaPages.Proofs.Data.Yaml.Quoted
import SchemaPages.Proofs.Data.Yaml.Blocks
import SchemaPages.Proofs.Data.Yaml.Tokens
import SchemaPages.Proofs.Data.Yaml.Leaves
import SchemaPages.Proofs.Data.Yaml.Lines
import SchemaPages.Proofs.Data.Yaml.Texts
import SchemaPages.Proofs.Data.Yaml.Nodes
import SchemaPages.Proofs.Data.Yaml.Documents
import SchemaPages.Proofs.CommandLine.Saving
import SchemaPages.Proofs.View.Reachability
import SchemaPages.Proofs.View.Chains
import SchemaPages.Proofs.Site.ClassOrder
import SchemaPages.Proofs.Site.Outlines
import SchemaPages.Proofs.FirstRoutes
import SchemaPages.Proofs.Import.Limit
import SchemaPages.Proofs.View.TypeLines
import SchemaPages.Proofs.Site.Neighbourhoods
import SchemaPages.Proofs.Site.ShownOnce
import SchemaPages.Proofs.View.Minting
import SchemaPages.Proofs.Text.Stability
import SchemaPages.Proofs.Schema.Cardinality
import SchemaPages.Proofs.Schema.Conditions
import SchemaPages.Proofs.Import.FileNames
import SchemaPages.Proofs.Site.SharedExamples
import SchemaPages.Proofs.Schema.MergeLaws
