import Rollup.Aggregation
import Rollup.Calendar
import Rollup.Command
import Rollup.Command.Arguments
import Rollup.Config
import Rollup.Database
import Rollup.Database.CustomFields
import Rollup.Database.Reports
import Rollup.Database.Snapshot
import Rollup.Definition
import Rollup.Document
import Rollup.Engine
import Rollup.Entity
import Rollup.Error
import Rollup.Exchange
import Rollup.Export
import Rollup.Field
import Rollup.Files
import Rollup.Filter
import Rollup.Json
import Rollup.Json.Path
import Rollup.Json.Reader
import Rollup.Main
import Rollup.Memory
import Rollup.Number
import Rollup.Number.Decimal
import Rollup.Number.Double
import Rollup.Number.Shortest
import Rollup.Path
import Rollup.Proofs.Act
import Rollup.Proofs.Aggregation
import Rollup.Proofs.Calls
import Rollup.Proofs.Catalog
import Rollup.Proofs.Comparison
import Rollup.Proofs.Containment
import Rollup.Proofs.CustomFields
import Rollup.Proofs.Database.Data
import Rollup.Proofs.Database.Reports
import Rollup.Proofs.Definition
import Rollup.Proofs.Delimited.Header
import Rollup.Proofs.Delimited.ReadBack
import Rollup.Proofs.Display
import Rollup.Proofs.Except
import Rollup.Proofs.Export
import Rollup.Proofs.Failures
import Rollup.Proofs.Field
import Rollup.Proofs.Files
import Rollup.Proofs.Filter
import Rollup.Proofs.FilterPlan
import Rollup.Proofs.GroupedRows
import Rollup.Proofs.Grouping
import Rollup.Proofs.Independence
import Rollup.Proofs.Json.Blanks
import Rollup.Proofs.Json.Lines
import Rollup.Proofs.Json.Path
import Rollup.Proofs.Json.Pictures
import Rollup.Proofs.Json.Reader
import Rollup.Proofs.Json.Steps
import Rollup.Proofs.Meaning
import Rollup.Proofs.MissingGroups
import Rollup.Proofs.Number.Finite
import Rollup.Proofs.Number.Order
import Rollup.Proofs.Number.Range
import Rollup.Proofs.Number.ReadBack
import Rollup.Proofs.Number.Reading
import Rollup.Proofs.Number.Rounding
import Rollup.Proofs.Number.Scientific
import Rollup.Proofs.Number.Sum
import Rollup.Proofs.Number.Whole
import Rollup.Proofs.Output
import Rollup.Proofs.OwnText
import Rollup.Proofs.Path
import Rollup.Proofs.Planning
import Rollup.Proofs.Pushdown
import Rollup.Proofs.Registry
import Rollup.Proofs.Reports
import Rollup.Proofs.Results
import Rollup.Proofs.Row
import Rollup.Proofs.Sql.Filtering
import Rollup.Proofs.Sql.Lexer
import Rollup.Proofs.Sql.Reader
import Rollup.Proofs.Terminal.Escape
import Rollup.Proofs.Terminal.Line
import Rollup.Proofs.Terminal.Picture
import Rollup.Proofs.Terminal.Verbatim
import Rollup.Proofs.Text.Lowercase
import Rollup.Proofs.Text.Split
import Rollup.Proofs.WholeNumbers
import Rollup.Reports
import Rollup.Resolver
import Rollup.Sql
import Rollup.Sql.Evaluator
import Rollup.Sql.Printer
import Rollup.Table
import Rollup.Terminal.Grid
import Rollup.Terminal.Line
import Rollup.Terminal.Markup
import Rollup.Terminal.Picture
import Rollup.Text.Blank
import Rollup.Text.CaseTable
import Rollup.Text.Digit
import Rollup.Text.Lowercase
import Rollup.Text.Printable
import Rollup.Text.Quoted
import Rollup.Text.Width
import Rollup.Validation
import Rollup.Value
import Rollup.Warehouse
import Rollup.Yaml.Error
import Rollup.Yaml.Node
import Rollup.Yaml.Tag
import Rollup.Yaml.Token
import Rollup.Yaml.Token.Cursor
import Rollup.Yaml.Token.Lexer
import Rollup.Yaml.Token.Property
import Rollup.Yaml.Token.Scalar
import Rollup.Yaml.Value
