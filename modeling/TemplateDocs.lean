import TemplateDocs.CommandLine.Console
import TemplateDocs.CommandLine.Emoji
import TemplateDocs.CommandLine.Options
import TemplateDocs.CommandLine.Program
import TemplateDocs.CommandLine.Selection
import TemplateDocs.CommandLine.Terminal
import TemplateDocs.Entries
import TemplateDocs.Failure
import TemplateDocs.Files.Node
import TemplateDocs.Files.Path
import TemplateDocs.Files.Sync
import TemplateDocs.Files.Tree
import TemplateDocs.Files.Walk
import TemplateDocs.Json.Basic
import TemplateDocs.Json.Reader
import TemplateDocs.Main
import TemplateDocs.Number.Double
import TemplateDocs.Number.Reader
import TemplateDocs.Number.Shortest
import TemplateDocs.Outcome
import TemplateDocs.Page.Cell
import TemplateDocs.Page.Document
import TemplateDocs.Page.Literal
import TemplateDocs.Page.RenderError
import TemplateDocs.Page.Sections
import TemplateDocs.Page.Table
import TemplateDocs.Proofs.Agreement
import TemplateDocs.Proofs.Entries
import TemplateDocs.Run.Compiler
import TemplateDocs.Run.Generate
import TemplateDocs.Run.World
import TemplateDocs.Settings.Basic
import TemplateDocs.Settings.File
import TemplateDocs.Settings.Layers
import TemplateDocs.Source.Finding
import TemplateDocs.Source.Line
import TemplateDocs.Source.Scan
import TemplateDocs.Template.Basic
import TemplateDocs.Template.Decode
import TemplateDocs.Template.Merge
import TemplateDocs.Template.Parse
import TemplateDocs.Template.Section
import TemplateDocs.Template.TypeRef
import TemplateDocs.Text.Base64
import TemplateDocs.Text.Blank
import TemplateDocs.Text.Digit
import TemplateDocs.Text.Half
import TemplateDocs.Text.Lines
import TemplateDocs.Text.LowerCase
import TemplateDocs.Text.Order
import TemplateDocs.Text.Printable
import TemplateDocs.Text.Property
import TemplateDocs.Text.Quoted
import TemplateDocs.Text.Search
import TemplateDocs.Text.Utf8
import TemplateDocs.Text.Width
import TemplateDocs.Text.Word
import TemplateDocs.Time.Date
import TemplateDocs.Value.Basic
import TemplateDocs.Value.Display
import TemplateDocs.Value.Encode
import TemplateDocs.Warning
import TemplateDocs.Yaml.Cell
import TemplateDocs.Yaml.Cursor
import TemplateDocs.Yaml.Kind
import TemplateDocs.Yaml.Library
import TemplateDocs.Yaml.Node
import TemplateDocs.Yaml.Number
import TemplateDocs.Yaml.Pen
import TemplateDocs.Yaml.Reader
import TemplateDocs.Yaml.Scalar
import TemplateDocs.Yaml.Source
import TemplateDocs.Yaml.Timestamp
import TemplateDocs.Yaml.Token
import TemplateDocs.Yaml.Writer
import TemplateDocs.Proofs.Json.Reordering
import TemplateDocs.Proofs.Json.Reader
import TemplateDocs.Proofs.Template.Decode
import TemplateDocs.Proofs.Template.Parse
import TemplateDocs.Proofs.Template.Shape
import TemplateDocs.Proofs.Value.Json
import TemplateDocs.Proofs.Template.Alike
import TemplateDocs.Proofs.Template.Reordering
import TemplateDocs.Proofs.Page.Alike
import TemplateDocs.Proofs.Page.Reordering
import TemplateDocs.Proofs.Template.Arrangement
import TemplateDocs.Proofs.Source.Concatenation
import TemplateDocs.Proofs.Page.DeclarationOrder
import TemplateDocs.Proofs.Page.Tables
import TemplateDocs.Proofs.Source.Attribution
import TemplateDocs.Proofs.Files.Tree
import TemplateDocs.Proofs.Files.Sync
import TemplateDocs.Proofs.Files.Draft
import TemplateDocs.Proofs.Run.Files
import TemplateDocs.Proofs.Files.Faults
import TemplateDocs.Proofs.Page.Rendering
import TemplateDocs.Proofs.Run.Failures
import TemplateDocs.Run.Crew
import TemplateDocs.Proofs.Run.Crew
import TemplateDocs.Proofs.Files.Writes
import TemplateDocs.Proofs.Files.Walk
import TemplateDocs.Proofs.Run.Sources
import TemplateDocs.Proofs.Run.Progress
import TemplateDocs.Proofs.Run.Plan
import TemplateDocs.Proofs.Run.Course
import TemplateDocs.Proofs.Run.Schedule
import TemplateDocs.Proofs.Template.Merge
import TemplateDocs.Proofs.Run.Products
import TemplateDocs.Proofs.Files.InStep
import TemplateDocs.Proofs.Files.Node
import TemplateDocs.Proofs.Page.LiteralText
import TemplateDocs.Proofs.Page.LiteralRoundTrip
import TemplateDocs.Proofs.Page.Refusals
import TemplateDocs.Proofs.Source.Reading
import TemplateDocs.Proofs.Source.Noise
import TemplateDocs.Proofs.Source.Unclosed
import TemplateDocs.Proofs.Source.Header
import TemplateDocs.Proofs.Source.InlineDescription
import TemplateDocs.Proofs.Source.BlockDescription
import TemplateDocs.Proofs.Page.Assembly
import TemplateDocs.Proofs.Page.TableReader
import TemplateDocs.Proofs.Value.RoundTrip
import TemplateDocs.Proofs.Page.CellValues
import TemplateDocs.Proofs.Source.Variables
import TemplateDocs.Proofs.Source.FileText
import TemplateDocs.Proofs.Template.Variables
import TemplateDocs.Proofs.Template.ErrorPaths
import TemplateDocs.Proofs.Page.ExtraColumns
import TemplateDocs.Proofs.Page.PropertyLinks
import TemplateDocs.Proofs.Page.Usage
import TemplateDocs.Proofs.Files.WalkOrder
import TemplateDocs.Proofs.Settings.Mapping
import TemplateDocs.Proofs.Settings.OtherKeys
import TemplateDocs.Proofs.Settings.Precedence
import TemplateDocs.Proofs.Settings.SectionLists
import TemplateDocs.Proofs.Settings.SavedFile
