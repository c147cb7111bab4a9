import NamedSql.Action
import NamedSql.Clause
import NamedSql.Clause.Json
import NamedSql.Config
import NamedSql.Config.Toml
import NamedSql.Decimal.Binary
import NamedSql.Decimal.Digits
import NamedSql.Decimal.Layout
import NamedSql.Decimal.Numeral
import NamedSql.Decimal.Scale
import NamedSql.Decimal.Shortest
import NamedSql.Entries
import NamedSql.Error
import NamedSql.Event
import NamedSql.Identifier
import NamedSql.Json
import NamedSql.Json.Printer
import NamedSql.Json.Reader
import NamedSql.Placeholder
import NamedSql.Proofs.Decimal.Float
import NamedSql.Proofs.Decimal.Shortest
import NamedSql.Proofs.Entries.Extensional
import NamedSql.Proofs.Entries.History
import NamedSql.Proofs.Entries.Writes
import NamedSql.Proofs.Identifier.Listing
import NamedSql.Proofs.Json.Export
import NamedSql.Proofs.Json.Literal
import NamedSql.Proofs.Json.Number
import NamedSql.Proofs.Json.Reading
import NamedSql.Proofs.Json.RoundTrip
import NamedSql.Proofs.Json.Text
import NamedSql.Proofs.Query.Components
import NamedSql.Proofs.Query.Failure
import NamedSql.Proofs.Query.Handle
import NamedSql.Proofs.Query.Insertion
import NamedSql.Proofs.Query.Invariant
import NamedSql.Proofs.Query.Naming
import NamedSql.Proofs.Query.Repetition
import NamedSql.Proofs.Scalar.Kinds
import NamedSql.Proofs.Scalar.Literal
import NamedSql.Proofs.Synthesis.Layout
import NamedSql.Proofs.Synthesis.Log
import NamedSql.Proofs.Synthesis.Occurrence
import NamedSql.Proofs.Synthesis.Parts
import NamedSql.Proofs.Synthesis.Placeholders
import NamedSql.Proofs.Synthesis.Readability
import NamedSql.Proofs.Synthesis.Registry
import NamedSql.Proofs.Synthesis.Spacing
import NamedSql.Proofs.Synthesis.Use
import NamedSql.Proofs.Synthesis.Values
import NamedSql.Proofs.Synthesis.Wording
import NamedSql.Proofs.Text.ByteOrder
import NamedSql.Proofs.Text.Cut
import NamedSql.Proofs.Text.Delimited
import NamedSql.Proofs.Text.Scan
import NamedSql.Proofs.Text.Spacing
import NamedSql.Query
import NamedSql.Query.Any
import NamedSql.Query.Call
import NamedSql.Scalar
import NamedSql.Scalar.Json
import NamedSql.Scalar.Literal
import NamedSql.Scalar.Numeral
import NamedSql.Statement
import NamedSql.Statement.Fragments
import NamedSql.Statement.Template
import NamedSql.Statement.Writer
import NamedSql.Synthesizer
import NamedSql.Text.Blank
import NamedSql.Text.Cut
import NamedSql.Text.Hex
import NamedSql.Text.Letters
import NamedSql.Text.Quoted
import NamedSql.Toml.Blank
import NamedSql.Toml.DateTime
import NamedSql.Toml.Expr
import NamedSql.Toml.Number
import NamedSql.Toml.Reader
import NamedSql.Toml.Table
import NamedSql.Toml.Text
