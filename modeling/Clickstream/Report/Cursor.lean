import Clickstream.Query.Compiled
import Clickstream.Report.Chart
import Clickstream.Report.Table

/-! Cursors over the rows of an executed query. A cursor is pulled row by row, or consumed whole
into a table or a chart; a failure while rows are read leaves neither of them. -/
namespace Clickstream
open Log

inductive ReportError where
  | query (e : QueryError)
  | store (e : StoreError)
  | decode (e : DecodeError)
  deriving DecidableEq

namespace ReportError

def message : ReportError → String
  | .query e => e.message
  | .store e => e.message
  | .decode e => e.message

/-- The error as programs print it when they fail. -/
def dump : ReportError → String
  | .query e => "Specification(" ++ e.dump ++ ")"
  | .store e => "Store(" ++ e.dump ++ ")"
  | .decode e => "Decode(" ++ e.dump ++ ")"

end ReportError

/-- A query with the rows that are still to come. -/
structure Cursor where
  query : Query
  rows : RowStream

namespace Cursor

/-- One item of the stream, decoded. -/
def decodeItem (q : Query) (item : Except StoreError (List Cell)) : Except ReportError Row :=
  match item with
  | .error e => .error (.store e)
  | .ok cells => (Row.decode cells q.dimensions.length q.measures.length).mapError .decode

/-- The next row, or none at the end. A failed row is passed by, and the cursor stays usable. -/
def next (c : Cursor) : Except ReportError (Option Row) × Cursor :=
  match c.rows with
  | [] => (.ok none, c)
  | item :: rows => ((decodeItem c.query item).map some, { c with rows })

/-- All rows that are still to come; the first failure is the error. -/
def rest (c : Cursor) : Except ReportError (List Row) := c.rows.mapM (decodeItem c.query)

/-- The rows that are still to come as a table. -/
def table (c : Cursor) : Except ReportError Table := (c.rest).map (Table.ofRows c.query)

/-- The rows that are still to come as a line chart. The shape is checked before a row is read. -/
def lineChart (c : Cursor) : Except ReportError (List Series) := do
  let shape ← (ChartShape.ofQuery c.query).mapError .query
  return shape.chart c.query.measures (← c.rest)

variable {σ : Type} [EventStore σ]

/-- Compiles the query and opens a cursor over its rows. -/
def openOn (q : Query) : Logging σ (Except ReportError (Cursor × String)) := do
  match ← q.prepare with
  | .error e => return .error (.query e)
  | .ok compiled =>
    match ← Logging.silent (EventStore.execute compiled.sql) with
    | .error e => return .error (.store e)
    | .ok rows => return .ok (⟨compiled.query, rows⟩, compiled.sql)

/-- Lets go of a cursor's stream, which is not read any further. -/
def release : Logging σ Unit := do
  Logging.write .debug "pixel_analytics::report::cursor" "Releasing result cursor"
  Logging.silent (modify EventStore.release)

end Cursor
end Clickstream
