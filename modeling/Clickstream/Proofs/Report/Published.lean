import Clickstream.Proofs.Report.Pivot
import Clickstream.Proofs.Report.Reading
import Clickstream.Proofs.Report.Transpose
import Clickstream.Report.Basic

/-! What the reports on a reply of the database are published as, member by member: the headers of a table with
all its rows, or the series of a chart with all their points. -/
namespace Clickstream
open Json

namespace Report

/-- A header is published with its key and its label. -/
def header (e : Entry) : Tree := .record [("key", .text e.key), ("label", .text e.label)]

/-- A row is published with the texts of its dimensions and the numbers of its measures. -/
def publishedRow (r : Row) : Tree := .record [
  ("dimension_values", .list (r.dimensions.map .text)), ("measure_values", .list (r.measures.map .number))]

/-- A series is published with its label and its points. -/
def publishedSeries (label : String) (points : List Point) : Tree := .record [
  ("label", .text label),
  ("data", .list (points.map fun p => .record [("x", .text p.x), ("y", .number p.y)]))]

/-- The tree is the document of the report of this shape on the whole reply. A table has a row for each row of
the reply. A chart of one dimension has a series for each measure, with the points of that measure; one of two
dimensions has a series for each value of the second, in the order they first appear, with the points of that
value. -/
inductive Publishes (q : Query) (reply : Database.Reply) : ReportShape → Tree → Prop
  | table {rows : List Row}
    (whole : List.Forall₂ (fun wire row => Cursor.Reads q (Database.readRow reply.columns wire) row)
      reply.rows rows) :
    Publishes q reply .table (.record [
      ("dimension_headers", .list (q.dimensions.map header)),
      ("measure_headers", .list (q.measures.map header)),
      ("rows", .list (rows.map publishedRow))])
  | perMeasure {rows : List Row} (one : q.dimensions.length = 1) (some_ : q.measures ≠ [])
    (whole : List.Forall₂ (fun wire row => Cursor.Reads q (Database.readRow reply.columns wire) row)
      reply.rows rows) :
    Publishes q reply .lineChart (.list (q.measures.zipIdx.map fun m =>
      publishedSeries m.1.label (Series.column m.2 rows)))
  | perSecondDimension {marks : List (String × Point)} (two : q.dimensions.length = 2)
    (one : q.measures.length = 1)
    (whole : List.Forall₂ (fun wire row => Cursor.Reads q (Database.readRow reply.columns wire) row)
      reply.rows (marks.map Row.ofPoint)) :
    Publishes q reply .lineChart (.list ((marks.map Prod.fst).eraseDups.map fun label =>
      publishedSeries label (Series.pointsOf marks label)))

section Charts
variable (measures : List Entry) (rows : List Row) (marks : List (String × Point))

private theorem perMeasure_tree :
    (Report.lineChart (ChartShape.seriesPerMeasure.chart measures rows)).toTree =
      .list (measures.zipIdx.map fun m => publishedSeries m.1.label (Series.column m.2 rows)) := by
  have each : Series.perMeasure measures rows =
      measures.zipIdx.map fun m => ⟨m.1.label, Series.column m.2 rows⟩ := by
    refine List.ext_getElem? fun i => ?_
    rw [Series.perMeasure_getElem?, List.getElem?_map, List.getElem?_zipIdx, Option.map_map]
    simp [Function.comp_def]
  rw [toTree, ChartShape.chart, each, List.map_map]
  rfl

private theorem perSecondDimension_tree :
    (Report.lineChart (ChartShape.seriesPerSecondDimension.chart measures (marks.map Row.ofPoint))).toTree =
      .list ((marks.map Prod.fst).eraseDups.map fun label =>
        publishedSeries label (Series.pointsOf marks label)) := by
  have pivoted : Series.gather [] marks = Series.pivot marks := Series.gather_pivot [] marks
  rw [toTree, ChartShape.chart, Series.perSecondDimension_eq, pivoted, Series.pivot, List.map_map]
  rfl

end Charts

private theorem lineChart_published {q : Query} {reply : Database.Reply} {tree : Tree} :
    (∃ shape rows, ChartShape.ofQuery q = .ok shape ∧
      List.Forall₂ (fun wire row => Cursor.Reads q (Database.readRow reply.columns wire) row)
        reply.rows rows ∧ (Report.lineChart (shape.chart q.measures rows)).toTree = tree) ↔
      Publishes q reply .lineChart tree := by
  constructor
  · rintro ⟨shape, rows, shaped, whole, rfl⟩
    rcases ChartShape.ofQuery_ok.mp shaped with ⟨rfl, one, some_⟩ | ⟨rfl, two, one⟩
    · rw [perMeasure_tree]
      exact .perMeasure one some_ whole
    · obtain ⟨marks, rfl⟩ := Cursor.marks_of_reads two one (List.forall₂_map_left_iff.mpr whole)
      rw [perSecondDimension_tree]
      exact .perSecondDimension two one whole
  · rintro (_ | ⟨one, some_, whole⟩ | ⟨two, one, whole⟩)
    · exact ⟨_, _, ChartShape.ofQuery_ok.mpr (.inl ⟨rfl, one, some_⟩), whole, perMeasure_tree _ _⟩
    · exact ⟨_, _, ChartShape.ofQuery_ok.mpr (.inr ⟨rfl, two, one⟩), whole, perSecondDimension_tree _ _⟩

/-- A report is made of a reply exactly if nothing ends the reply and all its rows are read, and it is published
with all of them. -/
theorem ofCursor_published {q : Query} {reply : Database.Reply} {shape : ReportShape} {tree : Tree} :
    (∃ r, ofCursor shape ⟨q, reply.stream⟩ = .ok r ∧ r.toTree = tree) ↔
      reply.ending? .stream = none ∧ Publishes q reply shape tree := by
  cases shape with
  | table =>
    simp only [ofCursor, Cursor.table, map_eq_ok, Cursor.rest_reply]
    constructor
    · rintro ⟨_, ⟨_, ⟨rows, ⟨ends, whole⟩, rfl⟩, rfl⟩, rfl⟩
      exact ⟨ends, .table whole⟩
    · rintro ⟨ends, ⟨whole⟩⟩
      exact ⟨_, ⟨_, ⟨_, ⟨ends, whole⟩, rfl⟩, rfl⟩, rfl⟩
  | lineChart =>
    simp only [← lineChart_published, ofCursor, Cursor.lineChart, map_eq_ok, bind_eq_ok, mapError_eq_ok,
      Cursor.rest_reply, pure, Except.pure, Except.ok.injEq]
    constructor
    · rintro ⟨_, ⟨_, ⟨shape, shaped, rows, ⟨ends, whole⟩, rfl⟩, rfl⟩, rfl⟩
      exact ⟨ends, shape, rows, shaped, whole, rfl⟩
    · rintro ⟨ends, shape, rows, shaped, whole, rfl⟩
      exact ⟨_, ⟨_, ⟨shape, shaped, rows, ⟨ends, whole⟩, rfl⟩, rfl⟩, rfl⟩

end Report
end Clickstream
