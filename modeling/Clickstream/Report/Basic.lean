import Clickstream.Report.Cursor

/-! Reports: a query run against a store and made into a table or a line chart. -/
namespace Clickstream
open Log

inductive ReportShape where
  | table
  | lineChart
  deriving DecidableEq

inductive Report where
  | table (t : Table)
  | lineChart (series : List Series)
  deriving DecidableEq

namespace Report
variable {σ : Type} [EventStore σ]

/-- Everything in the cursor, in the shape that is wanted. -/
def ofCursor (shape : ReportShape) (c : Cursor) : Except ReportError Report :=
  match shape with
  | .table => c.table.map .table
  | .lineChart => c.lineChart.map .lineChart

/-- Runs the query. A chart's shape is checked before the store is touched, and the cursor is
released on success and failure alike. -/
def run (shape : ReportShape) (q : Query) : Logging σ (Except ReportError Report) := do
  let refused :=
    match shape, ChartShape.ofQuery q with
    | .lineChart, .error e => some e
    | _, _ => none
  match refused with
  | some e => return .error (.query e)
  | none =>
    match ← Cursor.openOn q with
    | .error e => return .error e
    | .ok (cursor, _) =>
      Cursor.release
      return ofCursor shape cursor

def toTree : Report → Json.Tree
  | .table t => t.toTree
  | .lineChart series => .list (series.map Series.toTree)

end Report
end Clickstream
