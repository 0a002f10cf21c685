import Clickstream.Proofs.Report.Chart
import Clickstream.Proofs.Report.Decoding

/-! Line charts of one dimension: each measure is a series, so a chart has the columns of the table whose
rows it is made of, and the rows can be told from it. -/
namespace Clickstream

/-- The row has a value for the one dimension, and one for each of so many measures. -/
structure Row.Fills (measures : Nat) (row : Row) : Prop where
  dimension : row.dimensions.length = 1
  measure : row.measures.length = measures

/-- What a row adds to the series of its i-th measure. -/
def Row.point? (i : Nat) (row : Row) : Option Point :=
  row.measures[i]?.map fun y => ⟨row.dimensions.head?.getD "", y⟩

theorem Row.Fills.point {n i : Nat} {row : Row} (fills : row.Fills n) (within : i < n) :
    ∃ x y, row.dimensions = [x] ∧ row.measures[i]? = some y ∧ row.point? i = some ⟨x, y⟩ := by
  obtain ⟨x, dimension⟩ := List.length_eq_one_iff.mp fills.dimension
  have measure := List.getElem?_eq_getElem (fills.measure.symm ▸ within : i < row.measures.length)
  exact ⟨x, _, dimension, measure, by rw [point?, measure, dimension]; rfl⟩

namespace Series

/-- The points that rows add to the series of the i-th measure. -/
def column (i : Nat) (rows : List Row) : List Point := rows.filterMap (Row.point? i)

/-- The rows that series show: of each place the x of the first series, and the y of every series. -/
def rows (series : List Series) : List Row :=
  ((series.head?.map Series.points).getD []).zipIdx.map fun (p, j) =>
    ⟨[p.x], series.filterMap fun s => s.points[j]?.map Point.y⟩

section Column
variable {n i : Nat} {rows : List Row}

/-- A row adds one point to each series that it has a measure for. -/
theorem addRow_getElem? (series : List Series) (row : Row) (i : Nat) :
    (addRow (row.dimensions.head?.getD "") series row.measures)[i]? =
      series[i]?.map fun s => { s with points := s.points ++ (row.point? i).toList } := by
  obtain ⟨dimensions, measures⟩ := row
  induction series generalizing measures i with
  | nil => cases measures <;> rfl
  | cons s series ih =>
    cases measures with
    | nil => simp [addRow, Row.point?]
    | cons y measures =>
      cases i with
      | zero => rfl
      | succ i => exact ih i measures

private theorem addRows_getElem? (series : List Series) (rows : List Row) (i : Nat) :
    (rows.foldl (fun series row => addRow (row.dimensions.head?.getD "") series row.measures)
        series)[i]? =
      series[i]?.map fun s => { s with points := s.points ++ column i rows } := by
  induction rows generalizing series with
  | nil => simp [column]
  | cons row rows ih =>
    rw [List.foldl_cons, ih, addRow_getElem?, Option.map_map]
    congr 1
    funext s
    cases added : row.point? i <;> simp [column, added]

/-- The i-th series is that of the i-th measure, with its column. -/
theorem perMeasure_getElem? (measures : List Entry) (rows : List Row) (i : Nat) :
    (perMeasure measures rows)[i]? = measures[i]?.map fun m => ⟨m.label, column i rows⟩ := by
  rw [perMeasure, addRows_getElem?, List.getElem?_map, Option.map_map]
  rfl

theorem perMeasure_labels (measures : List Entry) (rows : List Row) :
    (perMeasure measures rows).map label = measures.map Entry.label := by
  refine List.ext_getElem? fun i => ?_
  rw [List.getElem?_map, List.getElem?_map, perMeasure_getElem?, Option.map_map]
  rfl

theorem length_perMeasure (measures : List Entry) (rows : List Row) :
    (perMeasure measures rows).length = measures.length := by
  simpa using congrArg List.length (perMeasure_labels measures rows)

/-- No row is skipped where all have the measure. -/
theorem column_whole (filled : ∀ row ∈ rows, row.Fills n) (within : i < n) :
    (column i rows).map some = rows.map (Row.point? i) := by
  rw [column, List.map_filterMap_some_eq_filter_map_isSome, List.filter_eq_self]
  intro point there
  obtain ⟨row, mem, rfl⟩ := List.mem_map.mp there
  obtain ⟨x, y, -, -, is⟩ := (filled row mem).point within
  rw [is]
  rfl

theorem length_column (filled : ∀ row ∈ rows, row.Fills n) (within : i < n) :
    (column i rows).length = rows.length := by
  simpa using congrArg List.length (column_whole filled within)

/-- The j-th point of a column is made of the j-th row. -/
theorem column_getElem? (filled : ∀ row ∈ rows, row.Fills n) (within : i < n) (j : Nat) :
    (column i rows)[j]? = rows[j]?.bind (Row.point? i) := by
  have same : (column i rows)[j]?.map some = rows[j]?.map (Row.point? i) := by
    simpa only [List.getElem?_map] using congrArg (·[j]?) (column_whole filled within)
  calc (column i rows)[j]?
    _ = ((column i rows)[j]?.map some).bind id := by simp [Option.bind_map]
    _ = (rows[j]?.map (Row.point? i)).bind id := by rw [same]
    _ = rows[j]?.bind (Row.point? i) := Option.bind_map

/-- At the place of a row the series have its measures. -/
theorem perMeasure_values {measures : List Entry} (filled : ∀ row ∈ rows, row.Fills measures.length)
    {j : Nat} {row : Row} (there : rows[j]? = some row) :
    (perMeasure measures rows).filterMap (fun s => s.points[j]?.map Point.y) = row.measures := by
  have fills := filled row (List.mem_of_getElem? there)
  have each : (perMeasure measures rows).map (fun s => s.points[j]?.map Point.y) =
      row.measures.map some := by
    refine List.ext_getElem? fun i => ?_
    rw [List.getElem?_map, List.getElem?_map, perMeasure_getElem?, Option.map_map]
    rcases Nat.lt_or_ge i measures.length with within | beyond
    · obtain ⟨x, y, -, measure, point⟩ := fills.point within
      simp [List.getElem?_eq_getElem within, column_getElem? filled within, there, point, measure]
    · rw [List.getElem?_eq_none beyond, List.getElem?_eq_none (fills.measure ▸ beyond)]
      rfl
  have whole := congrArg (List.filterMap id) each
  simpa [List.filterMap_map, Function.comp_def] using whole

/-- The rows can be told from the series that are made of them. -/
theorem rows_perMeasure {measures : List Entry} (some_ : measures ≠ [])
    (filled : ∀ row ∈ rows, row.Fills measures.length) :
    Series.rows (perMeasure measures rows) = rows := by
  have within : 0 < measures.length := List.length_pos_iff.mpr some_
  have first : ((perMeasure measures rows).head?.map Series.points).getD [] = column 0 rows := by
    rw [List.head?_eq_getElem?, perMeasure_getElem?, List.getElem?_eq_getElem within]
    rfl
  refine List.ext_getElem? fun j => ?_
  rw [Series.rows, first, List.getElem?_map, List.getElem?_zipIdx, column_getElem? filled within]
  cases there : rows[j]? with
  | none => rfl
  | some row =>
    obtain ⟨x, y, dimension, -, point⟩ :=
      (filled row (List.mem_of_getElem? there)).point within
    obtain ⟨dimensions, values⟩ := row
    simp only at dimension
    subst dimension
    simp [point, perMeasure_values filled there]

end Column
end Series

namespace Cursor

/-- Rows that are read under one dimension have a value for it and for every measure. -/
theorem fills_of_reads {q : Query} (one : q.dimensions.length = 1) {items : RowStream}
    {rows : List Row} (decoded : List.Forall₂ (Reads q) items rows) :
    ∀ row ∈ rows, row.Fills q.measures.length := by
  induction decoded with
  | nil => simp
  | cons reads _ ih =>
    obtain ⟨read⟩ := reads
    obtain ⟨texts, numbers⟩ := Row.decode_lengths read
    exact List.forall_mem_cons.mpr ⟨⟨texts.trans one, numbers⟩, ih⟩

/-- The chart of one dimension is the transpose of the table. Whatever the rows are that are read, it has
exactly one series for each measure, in their order and under their labels. Each series has a point for
each row, made of the row's dimension and of its value of that measure, so the rows can be told from the
chart. Where a row is added there are as many series as it has values, and none of them is dropped. -/
theorem lineChart_transposes {c : Cursor} {rows : List Row} (one : c.query.dimensions.length = 1)
    (some_ : c.query.measures ≠ []) (decoded : List.Forall₂ (Reads c.query) c.rows rows) :
    ∃ series, c.lineChart = .ok series ∧
      c.table = .ok ⟨c.query.dimensions, c.query.measures, rows⟩ ∧
      series.length = c.query.measures.length ∧
      series.map Series.label = c.query.measures.map Entry.label ∧
      (∀ s ∈ series, s.points.length = rows.length) ∧
      (∀ (i j : Nat) (s : Series) (row : Row), series[i]? = some s → rows[j]? = some row →
        ∃ x y, row.dimensions = [x] ∧ row.measures[i]? = some y ∧ s.points[j]? = some ⟨x, y⟩) ∧
      Series.rows series = rows ∧
      ∀ (j : Nat) (row : Row), rows[j]? = some row →
        (Series.perMeasure c.query.measures (rows.take j)).length = row.measures.length := by
  have filled := fills_of_reads one decoded
  have shaped : ChartShape.ofQuery c.query = .ok .seriesPerMeasure :=
    ChartShape.ofQuery_ok.mpr (.inl ⟨rfl, one, some_⟩)
  have place (i : Nat) (s : Series)
      (here : (Series.perMeasure c.query.measures rows)[i]? = some s) :
      i < c.query.measures.length ∧ s.points = Series.column i rows := by
    rw [Series.perMeasure_getElem?, Option.map_eq_some_iff] at here
    obtain ⟨m, measure, rfl⟩ := here
    obtain ⟨within, -⟩ := List.getElem?_eq_some_iff.mp measure
    exact ⟨within, rfl⟩
  refine ⟨Series.perMeasure c.query.measures rows, lineChart_ok.mpr ⟨_, rows, shaped, decoded, rfl⟩,
    table_ok.mpr ⟨rows, rest_ok.mpr decoded, rfl⟩, Series.length_perMeasure _ _,
    Series.perMeasure_labels _ _, fun s mem => ?_, fun i j s row here there => ?_,
    Series.rows_perMeasure some_ filled, fun j row there => ?_⟩
  · obtain ⟨i, here⟩ := List.mem_iff_getElem?.mp mem
    obtain ⟨within, points⟩ := place i s here
    rw [points, Series.length_column filled within]
  · obtain ⟨within, points⟩ := place i s here
    obtain ⟨x, y, dimension, measure, point⟩ :=
      (filled row (List.mem_of_getElem? there)).point within
    refine ⟨x, y, dimension, measure, ?_⟩
    rw [points, Series.column_getElem? filled within, there]
    exact point
  · rw [Series.length_perMeasure, (filled row (List.mem_of_getElem? there)).measure]

/-- Two rows under a date and three measures, of which one is asked for twice. -/
theorem lineChart_transposes_twice :
    let c : Cursor := ⟨{ Report.countsByDate with measures := Report.countsByDate.measures ++
        ⟨"event_value", "Event Value", "ROUND(SUM(value), 2)"⟩ :: Report.countsByDate.measures }, [
      .ok [.text "2023-01-01", .int 5, .float (.ofInt 10), .int 5],
      .ok [.text "2023-01-02", .int 3, .float (.ofInt 7), .int 3]]⟩
    (c.query.dimensions.length = 1 ∧ c.query.measures ≠ [] ∧
        ∃ rows, List.Forall₂ (Reads c.query) c.rows rows) ∧
      ∃ series, c.lineChart = .ok series ∧
        series.map Series.label = ["Event Count", "Event Value", "Event Count"] ∧
        ∀ s ∈ series, s.points.length = 2 := by
  intro c
  let x (i : Int) : Binary64 := .ofInt i
  let rows : List Row := [⟨["2023-01-01"], [x 5, x 10, x 5]⟩, ⟨["2023-01-02"], [x 3, x 7, x 3]⟩]
  have decoded : List.Forall₂ (Reads c.query) c.rows rows := .cons (.row rfl) (.cons (.row rfl) .nil)
  have some_ : c.query.measures ≠ [] := by simp [c]
  obtain ⟨series, drawn, -, -, labels, counts, -⟩ := lineChart_transposes (c := c) rfl some_ decoded
  exact ⟨⟨rfl, some_, rows, decoded⟩, series, drawn, labels, counts⟩

end Cursor
end Clickstream
