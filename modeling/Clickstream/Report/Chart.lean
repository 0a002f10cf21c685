import Clickstream.Query.Basic
import Clickstream.Report.Row

/-! Line charts: named series of points made from decoded rows. Nothing is sorted. -/
namespace Clickstream

structure Point where
  x : String
  y : Binary64
  deriving DecidableEq

structure Series where
  label : String
  points : List Point
  deriving DecidableEq

/-- The two shapes of query that a line chart is made from. -/
inductive ChartShape where
  /-- One dimension runs along the x axis, and each measure is a series. -/
  | seriesPerMeasure
  /-- The first dimension runs along the x axis, and each value of the second is a series. -/
  | seriesPerSecondDimension
  deriving DecidableEq

/-- The shape of a query by the number of its dimensions and measures. -/
def ChartShape.ofQuery (q : Query) : Except QueryError ChartShape :=
  match q.dimensions.length, q.measures.length with
  | 0, _ => .error (.malformedShape "a line chart needs at least one dimension and one measure")
  | _, 0 => .error (.malformedShape "a line chart needs at least one dimension and one measure")
  | 1, _ => .ok .seriesPerMeasure
  | 2, 1 => .ok .seriesPerSecondDimension
  | 2, _ => .error (.malformedShape "a line chart with two dimensions takes exactly one measure")
  | _, _ => .error (.malformedShape "a line chart takes at most two dimensions")

namespace Series

/-- Each series gets the point of its measure. -/
def addRow (x : String) : List Series → List Binary64 → List Series
  | s :: series, y :: ys => { s with points := s.points ++ [⟨x, y⟩] } :: addRow x series ys
  | series, _ => series

/-- The series of this label gets the point; a label not seen before starts a series at the end. -/
def addPoint (label : String) (p : Point) : List Series → List Series
  | [] => [⟨label, [p]⟩]
  | s :: series =>
    if s.label = label then { s with points := s.points ++ [p] } :: series
    else s :: addPoint label p series

/-- One series for each measure, with a point for each row. -/
def perMeasure (measures : List Entry) (rows : List Row) : List Series :=
  rows.foldl (fun series row => addRow (row.dimensions.head?.getD "") series row.measures)
    (measures.map fun m => ⟨m.label, []⟩)

/-- One series for each value of the second dimension, in the order they first appear. -/
def perSecondDimension (rows : List Row) : List Series :=
  rows.foldl (fun series row =>
    addPoint (row.dimensions[1]?.getD "")
      ⟨row.dimensions.head?.getD "", row.measures.head?.getD (.zero false)⟩ series) []

def toTree (s : Series) : Json.Tree :=
  .record [
    ("label", .text s.label),
    ("data", .list (s.points.map fun p => .record [("x", .text p.x), ("y", .number p.y)]))]

end Series

/-- The chart of decoded rows. -/
def ChartShape.chart (shape : ChartShape) (measures : List Entry) (rows : List Row) :
    List Series :=
  match shape with
  | .seriesPerMeasure => Series.perMeasure measures rows
  | .seriesPerSecondDimension => Series.perSecondDimension rows

end Clickstream
