import ColumnStore.Calendar.Date
import ColumnStore.Calendar.Reading
import ColumnStore.Calendar.Time
import ColumnStore.Calendar.Timestamp
import ColumnStore.Client.Api
import ColumnStore.Client.Connection
import ColumnStore.Client.Metadata
import ColumnStore.Client.Options
import ColumnStore.Client.Options.Json
import ColumnStore.Client.Parameter
import ColumnStore.Client.ResultSet
import ColumnStore.Client.Statement
import ColumnStore.Column
import ColumnStore.Column.Materialize
import ColumnStore.ColumnType
import ColumnStore.Columns
import ColumnStore.Engine
import ColumnStore.Engine.Catalog
import ColumnStore.Engine.Database
import ColumnStore.Engine.Description
import ColumnStore.Engine.EntryPoints
import ColumnStore.Engine.Parameters
import ColumnStore.Engine.Probe
import ColumnStore.Engine.Result
import ColumnStore.Engine.StoredStatement
import ColumnStore.Engine.Table
import ColumnStore.Error
import ColumnStore.Json
import ColumnStore.Json.Number
import ColumnStore.Native.Cell
import ColumnStore.Native.Descriptor
import ColumnStore.Native.FunctionTable
import ColumnStore.Native.Handle
import ColumnStore.Native.Library
import ColumnStore.Native.Options
import ColumnStore.Number.Binary
import ColumnStore.Number.Binary.Shortest
import ColumnStore.Number.Decimal
import ColumnStore.Number.Decimal.Text
import ColumnStore.Number.Digits
import ColumnStore.Number.IntegerKind
import ColumnStore.Proofs.Agreement
import ColumnStore.Proofs.Calendar.Reading
import ColumnStore.Proofs.Calendar.Text
import ColumnStore.Proofs.Client.Agreement
import ColumnStore.Proofs.Client.Answers
import ColumnStore.Proofs.Client.Attachment
import ColumnStore.Proofs.Client.Binding
import ColumnStore.Proofs.Client.Call
import ColumnStore.Proofs.Client.Caller
import ColumnStore.Proofs.Client.Counters
import ColumnStore.Proofs.Client.Delivery
import ColumnStore.Proofs.Client.Description
import ColumnStore.Proofs.Client.Execution
import ColumnStore.Proofs.Client.FetchAll
import ColumnStore.Proofs.Client.Journal
import ColumnStore.Proofs.Client.LastErrors
import ColumnStore.Proofs.Client.Limits
import ColumnStore.Proofs.Client.Loans
import ColumnStore.Proofs.Client.Metadata
import ColumnStore.Proofs.Client.NullBinding
import ColumnStore.Proofs.Client.Opening
import ColumnStore.Proofs.Client.Ownership
import ColumnStore.Proofs.Client.Parameter
import ColumnStore.Proofs.Client.Placeholders
import ColumnStore.Proofs.Client.Prediction
import ColumnStore.Proofs.Client.Prepared
import ColumnStore.Proofs.Client.Rebinding
import ColumnStore.Proofs.Client.Release
import ColumnStore.Proofs.Client.Reports
import ColumnStore.Proofs.Client.RowLimit
import ColumnStore.Proofs.Client.Select
import ColumnStore.Proofs.Client.Substitution
import ColumnStore.Proofs.Column.Copying
import ColumnStore.Proofs.Column.Decimals
import ColumnStore.Proofs.Column.Gathering
import ColumnStore.Proofs.Column.Materialize
import ColumnStore.Proofs.Column.Passes
import ColumnStore.Proofs.Column.ReadBack
import ColumnStore.Proofs.Column.Sweep
import ColumnStore.Proofs.Engine.Agreement
import ColumnStore.Proofs.Engine.Atomicity
import ColumnStore.Proofs.Engine.Changes
import ColumnStore.Proofs.Engine.Counters
import ColumnStore.Proofs.Engine.DecimalFilters
import ColumnStore.Proofs.Engine.Effects
import ColumnStore.Proofs.Engine.Filtering
import ColumnStore.Proofs.Engine.Independence
import ColumnStore.Proofs.Engine.Insertion
import ColumnStore.Proofs.Engine.LastErrors
import ColumnStore.Proofs.Engine.Lending
import ColumnStore.Proofs.Engine.Parameters
import ColumnStore.Proofs.Engine.Portable
import ColumnStore.Proofs.Engine.Provenance
import ColumnStore.Proofs.Engine.Reachable
import ColumnStore.Proofs.Engine.Refusal
import ColumnStore.Proofs.Engine.Results
import ColumnStore.Proofs.Engine.Statements
import ColumnStore.Proofs.Engine.Substitution
import ColumnStore.Proofs.Engine.Table
import ColumnStore.Proofs.Engine.TextLimits
import ColumnStore.Proofs.Except
import ColumnStore.Proofs.Lists
import ColumnStore.Proofs.Native.FunctionTable
import ColumnStore.Proofs.Number.Decimal
import ColumnStore.Proofs.Number.DecimalText
import ColumnStore.Proofs.Number.Digits
import ColumnStore.Proofs.Number.Exact
import ColumnStore.Proofs.Number.Rational
import ColumnStore.Proofs.Number.Rounding
import ColumnStore.Proofs.Number.Shortest
import ColumnStore.Proofs.Number.Unscaled
import ColumnStore.Proofs.Session.Agreement
import ColumnStore.Proofs.Session.Backend
import ColumnStore.Proofs.Sql.Acceptance
import ColumnStore.Proofs.Sql.Coercion
import ColumnStore.Proofs.Sql.FloatConversion
import ColumnStore.Proofs.Sql.IntegerConversion
import ColumnStore.Proofs.Sql.LetterCase
import ColumnStore.Proofs.Sql.Numbering
import ColumnStore.Proofs.Sql.Octets
import ColumnStore.Proofs.Sql.Parser
import ColumnStore.Proofs.Sql.Quoting
import ColumnStore.Proofs.Sql.RoundTrip
import ColumnStore.Proofs.Sql.Scanning
import ColumnStore.Proofs.Sql.Spelling
import ColumnStore.Proofs.Sql.TextCasts
import ColumnStore.Proofs.TagNumbering
import ColumnStore.Proofs.Text.NulFree
import ColumnStore.Proofs.Text.Utf8
import ColumnStore.Proofs.Value
import ColumnStore.Session
import ColumnStore.Session.Script
import ColumnStore.Session.Step
import ColumnStore.Sql.Coercion
import ColumnStore.Sql.DeclaredType
import ColumnStore.Sql.Failure
import ColumnStore.Sql.Parser
import ColumnStore.Sql.Statement
import ColumnStore.Sql.Token
import ColumnStore.Sql.TypeName
import ColumnStore.TagLayout
import ColumnStore.Text.CharacterClass
import ColumnStore.Text.CharacterTable
import ColumnStore.Text.Hex
import ColumnStore.Text.NativeText
import ColumnStore.Text.Quoted
import ColumnStore.Text.Utf8
import ColumnStore.Value
import ColumnStore.Value.Json
