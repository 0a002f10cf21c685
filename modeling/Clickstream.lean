import Clickstream.Catalog.Basic
import Clickstream.Catalog.Validation
import Clickstream.Config.Basic
import Clickstream.Database.Address
import Clickstream.Database.Bytes
import Clickstream.Database.Column
import Clickstream.Database.Numeric
import Clickstream.Database.Server
import Clickstream.Database.Store
import Clickstream.Event.Basic
import Clickstream.Event.Document
import Clickstream.Json.Passing
import Clickstream.Json.Reading
import Clickstream.Json.Tree
import Clickstream.Log.Basic
import Clickstream.Log.Filter
import Clickstream.Main
import Clickstream.Number.Binary64
import Clickstream.Number.Decimal
import Clickstream.Number.Layout
import Clickstream.Number.Numeral
import Clickstream.Number.Shortest
import Clickstream.Program.Basic
import Clickstream.Program.Ingest
import Clickstream.Program.Report
import Clickstream.Program.Seed
import Clickstream.Proofs.Catalog.Aggregate
import Clickstream.Proofs.Catalog.Resolution
import Clickstream.Proofs.Catalog.Splice
import Clickstream.Proofs.Catalog.Subquery
import Clickstream.Proofs.Catalog.Validation
import Clickstream.Proofs.Database.Address
import Clickstream.Proofs.Database.Agreement
import Clickstream.Proofs.Database.BulkLoad
import Clickstream.Proofs.Database.Insertion
import Clickstream.Proofs.Database.Listing
import Clickstream.Proofs.Database.Row
import Clickstream.Proofs.Database.Statement
import Clickstream.Proofs.Event.Document
import Clickstream.Proofs.Event.Members
import Clickstream.Proofs.Json.Framing
import Clickstream.Proofs.Json.Injective
import Clickstream.Proofs.Json.Passing
import Clickstream.Proofs.Json.Spelling
import Clickstream.Proofs.Json.Value
import Clickstream.Proofs.Json.Writing
import Clickstream.Proofs.Number.Amount
import Clickstream.Proofs.Number.Approach
import Clickstream.Proofs.Number.Arithmetic
import Clickstream.Proofs.Number.Decimal
import Clickstream.Proofs.Number.Decoded
import Clickstream.Proofs.Number.Finite
import Clickstream.Proofs.Number.Nearest
import Clickstream.Proofs.Number.Numeral
import Clickstream.Proofs.Number.Reading
import Clickstream.Proofs.Number.Rounding
import Clickstream.Proofs.Number.Scaling
import Clickstream.Proofs.Number.Shortest
import Clickstream.Proofs.Number.Written
import Clickstream.Proofs.Program.Ingest
import Clickstream.Proofs.Program.Report
import Clickstream.Proofs.Program.Run
import Clickstream.Proofs.Program.Seed
import Clickstream.Proofs.Report.Asking
import Clickstream.Proofs.Report.Chart
import Clickstream.Proofs.Report.Decoding
import Clickstream.Proofs.Report.Double
import Clickstream.Proofs.Report.Measures
import Clickstream.Proofs.Report.Pivot
import Clickstream.Proofs.Report.Printed
import Clickstream.Proofs.Report.Pulling
import Clickstream.Proofs.Report.Reading
import Clickstream.Proofs.Report.Table
import Clickstream.Proofs.Session.History
import Clickstream.Proofs.Session.Step
import Clickstream.Proofs.Sql.Clauses
import Clickstream.Proofs.Sql.Keyword
import Clickstream.Proofs.Sql.Lexer.Dollar
import Clickstream.Proofs.Sql.Lexer.Mark
import Clickstream.Proofs.Sql.Lexer.Number
import Clickstream.Proofs.Sql.Lexer.Quoted
import Clickstream.Proofs.Sql.Lexer.Stop
import Clickstream.Proofs.Sql.Lexer.Tokens
import Clickstream.Proofs.Sql.Tail.Basic
import Clickstream.Proofs.Sql.Tail.Call
import Clickstream.Proofs.Sql.Tail.Combined
import Clickstream.Proofs.Sql.Tail.Expression
import Clickstream.Proofs.Sql.Tail.Never
import Clickstream.Proofs.Sql.Tail.Operand
import Clickstream.Proofs.Sql.Tail.Query
import Clickstream.Proofs.Sql.Tail.Select
import Clickstream.Proofs.Sql.Tail.Step
import Clickstream.Proofs.Sql.Tail.TypeName
import Clickstream.Proofs.Store.Acceptance
import Clickstream.Proofs.Store.Memory
import Clickstream.Proofs.Text.Blank
import Clickstream.Proofs.Text.Front
import Clickstream.Proofs.Text.Line
import Clickstream.Proofs.Text.Trim
import Clickstream.Proofs.Time.Calendar
import Clickstream.Proofs.Time.Instant
import Clickstream.Proofs.Time.Reader
import Clickstream.Proofs.Traffic.Calendar
import Clickstream.Proofs.Traffic.Draw
import Clickstream.Proofs.Traffic.Events
import Clickstream.Proofs.Traffic.Storable
import Clickstream.Proofs.Traffic.Structure
import Clickstream.Proofs.Traffic.Visits
import Clickstream.Proofs.Traffic.Words
import Clickstream.Query.Basic
import Clickstream.Query.Compiled
import Clickstream.Report.Basic
import Clickstream.Report.Chart
import Clickstream.Report.Cursor
import Clickstream.Report.Row
import Clickstream.Report.Table
import Clickstream.Session.Basic
import Clickstream.Sql.Grammar.Alteration
import Clickstream.Sql.Grammar.Call
import Clickstream.Sql.Grammar.Command
import Clickstream.Sql.Grammar.Creation
import Clickstream.Sql.Grammar.Definition
import Clickstream.Sql.Grammar.Expression
import Clickstream.Sql.Grammar.Modification
import Clickstream.Sql.Grammar.Operand
import Clickstream.Sql.Grammar.Query
import Clickstream.Sql.Grammar.Role
import Clickstream.Sql.Grammar.Select
import Clickstream.Sql.Grammar.Source
import Clickstream.Sql.Grammar.Statement
import Clickstream.Sql.Grammar.Transaction
import Clickstream.Sql.Grammar.Transfer
import Clickstream.Sql.Grammar.TypeName
import Clickstream.Sql.Inspection
import Clickstream.Sql.Keyword
import Clickstream.Sql.Lexer
import Clickstream.Sql.Parser
import Clickstream.Sql.Token
import Clickstream.Sql.Tree
import Clickstream.Store.Basic
import Clickstream.Store.Memory
import Clickstream.Text.Blank
import Clickstream.Text.Letter
import Clickstream.Text.Printable
import Clickstream.Text.Quoted
import Clickstream.Text.Range
import Clickstream.Text.Uppercase
import Clickstream.Time.Calendar
import Clickstream.Time.Instant
import Clickstream.Time.Reader
import Clickstream.Traffic.Generation
import Clickstream.Traffic.Plan
import Clickstream.Traffic.Random
import Clickstream.Traffic.Storefront
import Clickstream.Proofs.Report.Transpose
import Clickstream.Proofs.Query.Settings
import Clickstream.Proofs.Query.Injective
