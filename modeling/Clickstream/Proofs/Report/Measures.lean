import Clickstream.Proofs.Number.Finite
import Clickstream.Proofs.Report.Pivot
import Clickstream.Proofs.Report.Transpose
import Clickstream.Report.Basic

/-! The measures of a report are those of the rows it is made of, in tables and charts alike. They are finite
but for floats that are not, since every other number that a cell can hold is finite. -/
namespace Clickstream
open Binary64

/-- The values of measures that a report has. -/
def Report.measures : Report → List Binary64
  | .table t => t.rows.flatMap Row.measures
  | .lineChart series => series.flatMap fun s => s.points.map Point.y

namespace Cursor

/-- The integers of the rows are of 64 bits, as those of a store are. -/
def Words (c : Cursor) : Prop :=
  ∀ cells, .ok cells ∈ c.rows → ∀ i, Cell.int i ∈ cells → i.natAbs ≤ 2 ^ 63

/-- The floats of the rows are finite. -/
def Finite (c : Cursor) : Prop :=
  ∀ cells, .ok cells ∈ c.rows → ∀ x, Cell.float x ∈ cells → x.isFinite = true

end Cursor

section Charts
variable {q : Query} {items : RowStream} {rows : List Row} {x : Binary64}

/-- Each value of a row gets into the series of its measure, and no other value does. -/
theorem Series.mem_perMeasure {measures : List Entry} (filled : ∀ row ∈ rows, row.Fills measures.length) :
    x ∈ (Report.lineChart (perMeasure measures rows)).measures ↔ ∃ row ∈ rows, x ∈ row.measures := by
  constructor
  · intro there
    obtain ⟨s, mem, value⟩ := List.mem_flatMap.mp there
    obtain ⟨p, point, rfl⟩ := List.mem_map.mp value
    obtain ⟨i, place⟩ := List.mem_iff_getElem?.mp mem
    rw [perMeasure_getElem?] at place
    obtain ⟨m, -, rfl⟩ := Option.map_eq_some_iff.mp place
    obtain ⟨row, among, made⟩ := List.mem_filterMap.mp point
    obtain ⟨y, measure, rfl⟩ := Option.map_eq_some_iff.mp made
    exact ⟨row, among, List.mem_of_getElem? measure⟩
  · rintro ⟨row, among, value⟩
    obtain ⟨i, measure⟩ := List.mem_iff_getElem?.mp value
    obtain ⟨within, -⟩ := List.getElem?_eq_some_iff.mp measure
    rw [(filled row among).measure] at within
    have series : (perMeasure measures rows)[i]? = some ⟨measures[i].label, column i rows⟩ := by
      rw [perMeasure_getElem?, List.getElem?_eq_getElem within]
      rfl
    have point : ⟨row.dimensions.head?.getD "", x⟩ ∈ column i rows :=
      List.mem_filterMap.mpr ⟨row, among, by rw [Row.point?, measure]; rfl⟩
    exact List.mem_flatMap.mpr ⟨_, List.mem_of_getElem? series, List.mem_map_of_mem point⟩

/-- The series that points are gathered in have the values of the points. -/
theorem Series.mem_gather (new : List (String × Point)) :
    x ∈ (Report.lineChart (gather [] new)).measures ↔ ∃ mark ∈ new, x ∈ (Row.ofPoint mark).measures := by
  have values : (Report.lineChart (gather [] new)).measures = (marks (gather [] new)).map (·.2.y) := by
    simp [Report.measures, marks, List.map_flatMap, Function.comp_def]
  rw [values, ((gather_marks [] new).map _).mem_iff]
  simp [marks, Row.ofPoint, eq_comm]

end Charts

section Cells
variable {x : Binary64}

theorem Cell.holds_unique {cell : Cell} {y : Binary64} (holds : cell.Holds x) (holds' : cell.Holds y) : x = y := by
  cases holds <;> cases holds' <;> rfl

/-- Of the numbers that cells hold only floats can be other than finite. -/
theorem Cell.eq_float {cell : Cell} (holds : cell.Holds x) (word : ∀ i, cell = .int i → i.natAbs ≤ 2 ^ 63)
    (other : x.isFinite = false) : cell = .float x := by
  cases holds with
  | int i =>
    rw [isFinite_ofInt (by decide) (word i rfl)] at other
    cases other
  | float => rfl
  | numeric d =>
    rw [d.isFinite_toBinary64] at other
    cases other

/-- The measures of a row are the numbers in its cells. -/
theorem Row.mem_measures {cells : List Cell} {dimensions measures : Nat} {row : Row}
    (decoded : decode cells dimensions measures = .ok row) :
    x ∈ row.measures ↔ ∃ cell ∈ cells, cell.Holds x := by
  obtain ⟨count, -, length, texts, numbers⟩ := decode_values.mp decoded
  constructor
  · intro there
    obtain ⟨i, place⟩ := List.mem_iff_getElem?.mp there
    obtain ⟨cell, here, holds⟩ := numbers i x place
    exact ⟨cell, List.mem_of_getElem? here, holds⟩
  · rintro ⟨cell, there, holds⟩
    obtain ⟨k, here⟩ := List.mem_iff_getElem?.mp there
    obtain ⟨within, -⟩ := List.getElem?_eq_some_iff.mp here
    obtain ⟨-, fits⟩ := decode_succeeds.mp ⟨row, decoded⟩
    rcases Nat.lt_or_ge k dimensions with inside | beyond
    · obtain ⟨s, rfl⟩ := (fits k cell here).1 inside
      cases holds
    · obtain ⟨i, rfl⟩ := Nat.exists_eq_add_of_le beyond
      have place := List.getElem?_eq_getElem (show i < row.measures.length by omega)
      obtain ⟨cell', here', holds'⟩ := numbers i _ place
      obtain rfl : cell = cell' := Option.some.inj (here.symm.trans here')
      rw [Cell.holds_unique holds holds']
      exact List.mem_of_getElem? place

theorem Cursor.mem_measures_of_reads {q : Query} {items : RowStream} {rows : List Row}
    (read : List.Forall₂ (Reads q) items rows) :
    (∃ row ∈ rows, x ∈ row.measures) ↔ ∃ cells, .ok cells ∈ items ∧ ∃ cell ∈ cells, cell.Holds x := by
  induction read with
  | nil => simp
  | cons reads _ ih =>
    obtain ⟨decoded⟩ := reads
    simp only [Row.mem_measures decoded, ih, List.mem_cons, Except.ok.injEq,
      or_and_right, exists_or, exists_eq_left]

end Cells

namespace Report
variable {shape : ReportShape} {c : Cursor} {r : Report} {x : Binary64}

/-- The measures of a report are the numbers in the cells of its rows. -/
theorem mem_measures (made : ofCursor shape c = .ok r) :
    x ∈ r.measures ↔ ∃ cells, .ok cells ∈ c.rows ∧ ∃ cell ∈ cells, cell.Holds x := by
  cases shape with
  | table =>
    obtain ⟨t, tabled, rfl⟩ := map_eq_ok.mp made
    obtain ⟨rows, read, rfl⟩ := Cursor.table_ok.mp tabled
    rw [← Cursor.mem_measures_of_reads (Cursor.rest_ok.mp read)]
    exact List.mem_flatMap
  | lineChart =>
    obtain ⟨series, charted, rfl⟩ := map_eq_ok.mp made
    obtain ⟨shape, rows, shaped, read, rfl⟩ := Cursor.lineChart_ok.mp charted
    rw [← Cursor.mem_measures_of_reads read]
    rcases ChartShape.ofQuery_ok.mp shaped with ⟨rfl, one, -⟩ | ⟨rfl, two, one⟩
    · exact Series.mem_perMeasure (Cursor.fills_of_reads one read)
    · obtain ⟨marks, rfl⟩ := Cursor.marks_of_reads two one read
      rw [ChartShape.chart, Series.perSecondDimension_eq, Series.mem_gather]
      simp

/-- All measures of a report are finite exactly if all floats in its rows are. -/
theorem finite_iff (made : ofCursor shape c = .ok r) (words : c.Words) :
    (∀ x ∈ r.measures, x.isFinite = true) ↔ c.Finite := by
  constructor
  · intro finite_ cells among x there
    exact finite_ x ((mem_measures made).mpr ⟨cells, among, _, there, .float x⟩)
  · intro finite_ x there
    obtain ⟨cells, among, cell, mem, holds⟩ := (mem_measures made).mp there
    cases outcome : x.isFinite with
    | true => rfl
    | false =>
      have float : cell = .float x := Cell.eq_float holds (fun i is => words cells among i (is ▸ mem)) outcome
      rw [← outcome]
      exact finite_ cells among x (float ▸ mem)

end Report

end Clickstream
