import FilterQuery.Build
import FilterQuery.Children
import FilterQuery.Decimal.Digits
import FilterQuery.Decimal.Double
import FilterQuery.Definition
import FilterQuery.Details
import FilterQuery.Entries
import FilterQuery.Event
import FilterQuery.Failure
import FilterQuery.FieldPath
import FilterQuery.JoinTracker
import FilterQuery.Logging.Disk
import FilterQuery.Logging.Line
import FilterQuery.Logging.Logger
import FilterQuery.Logging.Manager
import FilterQuery.Logging.Output
import FilterQuery.Logging.Record
import FilterQuery.Logging.Setting
import FilterQuery.Logging.Structured
import FilterQuery.Operand
import FilterQuery.Operator
import FilterQuery.Options
import FilterQuery.Proofs.Built
import FilterQuery.Proofs.ChildOrdering
import FilterQuery.Proofs.Comparing
import FilterQuery.Proofs.Composing
import FilterQuery.Proofs.Configuring
import FilterQuery.Proofs.Containing
import FilterQuery.Proofs.DeclarationOrder
import FilterQuery.Proofs.Decoding
import FilterQuery.Proofs.DottedPaths
import FilterQuery.Proofs.ErrorDetails
import FilterQuery.Proofs.Families
import FilterQuery.Proofs.Faults
import FilterQuery.Proofs.FilterKeys
import FilterQuery.Proofs.FilterValues
import FilterQuery.Proofs.Gathering
import FilterQuery.Proofs.Handlers
import FilterQuery.Proofs.JoinedRows
import FilterQuery.Proofs.Linking
import FilterQuery.Proofs.Loading
import FilterQuery.Proofs.Log
import FilterQuery.Proofs.Mappings
import FilterQuery.Proofs.Meaning
import FilterQuery.Proofs.Names
import FilterQuery.Proofs.OrderingText
import FilterQuery.Proofs.Ownership
import FilterQuery.Proofs.Parameters
import FilterQuery.Proofs.ParentAttribute
import FilterQuery.Proofs.Parents
import FilterQuery.Proofs.Patterns
import FilterQuery.Proofs.Present
import FilterQuery.Proofs.Progress
import FilterQuery.Proofs.QueryChildren
import FilterQuery.Proofs.QueryRows
import FilterQuery.Proofs.Reconfiguring
import FilterQuery.Proofs.Rejected
import FilterQuery.Proofs.Reuse
import FilterQuery.Proofs.Rows
import FilterQuery.Proofs.Runs
import FilterQuery.Proofs.Scanning
import FilterQuery.Proofs.SettingsDocuments
import FilterQuery.Proofs.SettingsFiles
import FilterQuery.Proofs.Shape
import FilterQuery.Proofs.Skipped
import FilterQuery.Proofs.Sorted
import FilterQuery.Proofs.Sources
import FilterQuery.Proofs.Spelling
import FilterQuery.Proofs.Subquery
import FilterQuery.Proofs.Successive
import FilterQuery.Proofs.Turns
import FilterQuery.Query
import FilterQuery.Sample
import FilterQuery.Schema
import FilterQuery.Scope
import FilterQuery.Settings
import FilterQuery.SettingsFile
import FilterQuery.Sql.Binding
import FilterQuery.Sql.Cell
import FilterQuery.Sql.Database
import FilterQuery.Sql.Identifier
import FilterQuery.Sql.Like
import FilterQuery.Sql.Naming
import FilterQuery.Sql.OrderText
import FilterQuery.Sql.Ordering
import FilterQuery.Sql.RawText
import FilterQuery.Sql.Result
import FilterQuery.Sql.Statement
import FilterQuery.Sql.Written
import FilterQuery.Text.Base64
import FilterQuery.Text.DecimalDigit
import FilterQuery.Text.LowerCase
import FilterQuery.Text.Parts
import FilterQuery.Text.Printable
import FilterQuery.Text.Quoted
import FilterQuery.Text.Utf8
import FilterQuery.Text.Word
import FilterQuery.Value.Basic
import FilterQuery.Value.Display
import FilterQuery.Value.Json
import FilterQuery.Value.Mapping
import FilterQuery.Value.Time
import FilterQuery.Yaml.Cursor
import FilterQuery.Yaml.Document
import FilterQuery.Yaml.Fault
import FilterQuery.Yaml.Node
import FilterQuery.Yaml.Numeral
import FilterQuery.Yaml.Property
import FilterQuery.Yaml.ScalarText
import FilterQuery.Yaml.Tag
import FilterQuery.Yaml.Timestamp
import FilterQuery.Yaml.Token
