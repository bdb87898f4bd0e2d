import EditorBlocks.Argument.Basic
import EditorBlocks.Argument.Dropdown
import EditorBlocks.Argument.Kind
import EditorBlocks.Block
import EditorBlocks.Command.Ending
import EditorBlocks.Command.Export
import EditorBlocks.Command.Failure
import EditorBlocks.Command.Log
import EditorBlocks.Command.Printer
import EditorBlocks.Command.Reach
import EditorBlocks.Command.Run
import EditorBlocks.Command.Settings
import EditorBlocks.Command.Validate
import EditorBlocks.Command.World
import EditorBlocks.CommandLine.Grammar
import EditorBlocks.CommandLine.Invocation
import EditorBlocks.CommandLine.Parser
import EditorBlocks.Connection
import EditorBlocks.Decimal.Layout
import EditorBlocks.Decimal.Nearest
import EditorBlocks.Decimal.Scale
import EditorBlocks.Decimal.Shortest
import EditorBlocks.Document.Format
import EditorBlocks.Document.Read
import EditorBlocks.Files
import EditorBlocks.Generator
import EditorBlocks.Json.Basic
import EditorBlocks.Json.Cursor
import EditorBlocks.Json.PassOver
import EditorBlocks.Json.Reader
import EditorBlocks.Json.Writer
import EditorBlocks.Logging.Filter
import EditorBlocks.Logging.Logger
import EditorBlocks.Logging.Pattern
import EditorBlocks.Logging.Plan
import EditorBlocks.Main
import EditorBlocks.Output.FileReport
import EditorBlocks.Output.Format
import EditorBlocks.Output.Human
import EditorBlocks.Output.Summary
import EditorBlocks.Proofs.Acceptance
import EditorBlocks.Proofs.Alike
import EditorBlocks.Proofs.ArgumentRendering
import EditorBlocks.Proofs.BasicMode
import EditorBlocks.Proofs.BatchReports
import EditorBlocks.Proofs.ConnectionOverlap
import EditorBlocks.Proofs.Contexts
import EditorBlocks.Proofs.Correspondence
import EditorBlocks.Proofs.DocumentTexts
import EditorBlocks.Proofs.EncodedText
import EditorBlocks.Proofs.EnvironmentVariables
import EditorBlocks.Proofs.ExportedParts
import EditorBlocks.Proofs.ExportedSchema
import EditorBlocks.Proofs.FileReports
import EditorBlocks.Proofs.FileRuns
import EditorBlocks.Proofs.FiniteNumbers
import EditorBlocks.Proofs.ForcedSettings
import EditorBlocks.Proofs.GeneratorBinding
import EditorBlocks.Proofs.Guarantees
import EditorBlocks.Proofs.Independence
import EditorBlocks.Proofs.Insertion
import EditorBlocks.Proofs.Inspection
import EditorBlocks.Proofs.IntegerSign
import EditorBlocks.Proofs.KeptKeys
import EditorBlocks.Proofs.KeptRules
import EditorBlocks.Proofs.Kinds
import EditorBlocks.Proofs.Located
import EditorBlocks.Proofs.Logs
import EditorBlocks.Proofs.MisshapenKeys
import EditorBlocks.Proofs.Modes
import EditorBlocks.Proofs.NormalChecks
import EditorBlocks.Proofs.NormalForm
import EditorBlocks.Proofs.NormalReading
import EditorBlocks.Proofs.Objects
import EditorBlocks.Proofs.OptionReports
import EditorBlocks.Proofs.Ordered
import EditorBlocks.Proofs.OrderedReports
import EditorBlocks.Proofs.PathLookup
import EditorBlocks.Proofs.PathText
import EditorBlocks.Proofs.PlaceholderReports
import EditorBlocks.Proofs.Places
import EditorBlocks.Proofs.Provenance
import EditorBlocks.Proofs.QuietReports
import EditorBlocks.Proofs.QuotedText
import EditorBlocks.Proofs.Reading
import EditorBlocks.Proofs.References
import EditorBlocks.Proofs.Registries
import EditorBlocks.Proofs.Relocation
import EditorBlocks.Proofs.Rendering
import EditorBlocks.Proofs.RepeatedKeys
import EditorBlocks.Proofs.ReportLines
import EditorBlocks.Proofs.ReportOrder
import EditorBlocks.Proofs.RoundTrip
import EditorBlocks.Proofs.SavedSettings
import EditorBlocks.Proofs.SchemaAndModes
import EditorBlocks.Proofs.SchemaKeywords
import EditorBlocks.Proofs.SchemaMeaning
import EditorBlocks.Proofs.Shapes
import EditorBlocks.Proofs.Silence
import EditorBlocks.Proofs.Spelling
import EditorBlocks.Proofs.TrailingDummy
import EditorBlocks.Proofs.UnknownKeys
import EditorBlocks.Proofs.Verdicts
import EditorBlocks.Proofs.WrittenFiles
import EditorBlocks.Proofs.WrittenValues
import EditorBlocks.Schema.Constraint
import EditorBlocks.Schema.Export
import EditorBlocks.Schema.JsonSchema
import EditorBlocks.Schema.Tables
import EditorBlocks.Settings.Basic
import EditorBlocks.Settings.Read
import EditorBlocks.Settings.Source
import EditorBlocks.Template
import EditorBlocks.Text.Alphanumeric
import EditorBlocks.Text.Blank
import EditorBlocks.Text.Case
import EditorBlocks.Text.Hex
import EditorBlocks.Text.Hidden
import EditorBlocks.Text.LowerCase
import EditorBlocks.Text.Quoted
import EditorBlocks.Text.Range
import EditorBlocks.Text.Split
import EditorBlocks.Text.Utf8
import EditorBlocks.Toml.Reader
import EditorBlocks.Toml.Value
import EditorBlocks.Toml.Writer
import EditorBlocks.Validation.Arguments
import EditorBlocks.Validation.Batch
import EditorBlocks.Validation.Block
import EditorBlocks.Validation.Context
import EditorBlocks.Validation.Fields
import EditorBlocks.Validation.Finding
import EditorBlocks.Validation.Repeats
import EditorBlocks.Validation.Slots
import EditorBlocks.Violation.Basic
import EditorBlocks.Violation.Kind
import EditorBlocks.Violation.Path
import EditorBlocks.Yaml.Character
import EditorBlocks.Yaml.Lexer
import EditorBlocks.Yaml.Node
import EditorBlocks.Yaml.Token
import EditorBlocks.Yaml.Value
import EditorBlocks.Yaml.Writer
