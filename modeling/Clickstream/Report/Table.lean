import Clickstream.Query.Basic
import Clickstream.Report.Row

/-! Tables: all rows of a result under the headers that were asked for. -/
namespace Clickstream

structure Table where
  dimensionHeaders : List Entry
  measureHeaders : List Entry
  rows : List Row
  deriving DecidableEq

namespace Table

def ofRows (q : Query) (rows : List Row) : Table := ⟨q.dimensions, q.measures, rows⟩

def toTree (t : Table) : Json.Tree :=
  .record [
    ("dimension_headers", .list (t.dimensionHeaders.map Entry.toTree)),
    ("measure_headers", .list (t.measureHeaders.map Entry.toTree)),
    ("rows", .list (t.rows.map Row.toTree))]

end Table
end Clickstream
