import Clickstream.Proofs.Report.Table

/-! Line charts and tables of one query: they are made of the same rows and fail in the same way. A
query without the shape of a chart is refused before anything is asked or read. -/
namespace Clickstream
open Log

namespace ChartShape

/-- The queries that have each shape. -/
theorem ofQuery_ok {q : Query} {shape : ChartShape} : ofQuery q = .ok shape ↔
    (shape = .seriesPerMeasure ∧ q.dimensions.length = 1 ∧ q.measures ≠ []) ∨
      (shape = .seriesPerSecondDimension ∧ q.dimensions.length = 2 ∧ q.measures.length = 1) := by
  constructor
  · intro shaped
    unfold ofQuery at shaped
    split at shaped <;> cases shaped
    · rename_i one some_
      exact .inl ⟨rfl, one, fun none_ => some_ (by rw [none_]; rfl)⟩
    · exact .inr ⟨rfl, by assumption, by assumption⟩
  · rintro (⟨rfl, one, some_⟩ | ⟨rfl, two, one⟩)
    · obtain ⟨m, ms, is⟩ := List.exists_cons_of_ne_nil some_
      rw [ofQuery, one, is]
      rfl
    · rw [ofQuery, two, one]
      rfl

/-- Only queries with dimensions and measures have a shape. -/
theorem asks_of_ok {q : Query} {shape : ChartShape} (shaped : ofQuery q = .ok shape) : q.Asks := by
  unfold ofQuery at shaped
  refine .inl fun none_ => ?_
  simp [none_] at shaped

/-- Queries without a shape are refused as malformed. -/
theorem malformed_of_error {q : Query} {e : QueryError} (refused : ofQuery q = .error e) :
    ∃ reason, e = .malformedShape reason := by
  unfold ofQuery at refused
  split at refused <;> cases refused <;> exact ⟨_, rfl⟩

/-- The chart of this shape that is made of rows, under these labels of the measures. -/
def ofRows (shape : ChartShape) (rows : List Row) (labels : List String) : List Series :=
  shape.chart (labels.map fun label => ⟨"", label, ""⟩) rows

/-- Of the measures only the labels come into a chart. -/
theorem chart_eq_ofRows (shape : ChartShape) (measures : List Entry) (rows : List Row) :
    shape.chart measures rows = shape.ofRows rows (measures.map Entry.label) := by
  cases shape with
  | seriesPerMeasure => simp [chart, ofRows, Series.perMeasure, Function.comp_def]
  | seriesPerSecondDimension => rfl

end ChartShape

namespace Cursor

/-- Pulls the rows of a line chart, if the query has the shape of one: the chart, and the cursor as
it is then. -/
def drainChart (c : Cursor) : Except ReportError (List Series) × Cursor :=
  match ChartShape.ofQuery c.query with
  | .error e => (.error (.query e), c)
  | .ok shape => ((c.drain).1.map (shape.chart c.query.measures), (c.drain).2)

theorem lineChart_eq_drainChart (c : Cursor) : c.lineChart = c.drainChart.1 := by
  unfold lineChart drainChart
  cases ChartShape.ofQuery c.query with
  | error e => rfl
  | ok shape =>
    rw [rest_eq_drain]
    cases c.drain.1 <;> rfl

/-- A chart is there exactly if the query has a shape and every row is read. -/
theorem lineChart_ok {c : Cursor} {series : List Series} :
    c.lineChart = .ok series ↔ ∃ shape rows, ChartShape.ofQuery c.query = .ok shape ∧
      List.Forall₂ (Reads c.query) c.rows rows ∧ series = shape.chart c.query.measures rows := by
  simp only [lineChart, bind_eq_ok, mapError_eq_ok, rest_ok]
  constructor
  · rintro ⟨shape, shaped, rows, read, ⟨⟩⟩
    exact ⟨shape, rows, shaped, read, rfl⟩
  · rintro ⟨shape, rows, shaped, read, rfl⟩
    exact ⟨shape, shaped, rows, read, rfl⟩

/-- A chart that has a shape is made of the rows of the table. -/
theorem lineChart_eq_table {c : Cursor} {shape : ChartShape}
    (shaped : ChartShape.ofQuery c.query = .ok shape) :
    c.lineChart = c.table.map fun t => shape.ofRows t.rows (t.measureHeaders.map Entry.label) := by
  unfold lineChart table
  rw [shaped]
  cases c.rest with
  | error e => rfl
  | ok rows => exact congrArg Except.ok (shape.chart_eq_ofRows c.query.measures rows)

end Cursor

namespace Session

/-- Making a chart of an open cursor whose query has no shape for it gives back the cursor's stream,
and the cursor with it. -/
theorem consume_refused {s : Session} {id : String} {c : Cursor} {e : QueryError}
    (open_ : s.cursor? id = some c) (refused : ChartShape.ofQuery c.query = .error e) :
    s.answer (.consume .lineChart id) = .error (.report (.query e)) ∧
      (step (.consume .lineChart id) s).2.store =
        { s.store with released := s.store.released + 1 } ∧
      (step (.consume .lineChart id) s).2.cursors = s.cursors.filter (·.1 ≠ id) := by
  obtain ⟨cursors, store⟩ := dropCursor_eq id s
  have fails : c.lineChart = .error (.query e) := by
    unfold Cursor.lineChart
    rw [refused]
    rfl
  refine ⟨?_, ?_, ?_⟩
  · rw [answer, step_consume_some s .lineChart open_]
    simp [Report.ofCursor, fails, Except.map, Except.mapError]
  · rw [step_consume_some s .lineChart open_, store, open_]
    rfl
  · rw [step_consume_some s .lineChart open_, cursors]

end Session

namespace Report

theorem run_refused {q : Query} {e : QueryError} (refused : ChartShape.ofQuery q = .error e)
    (t : Logged MemoryStore) : run .lineChart q t = (.error (.query e), t) := by
  unfold run
  rw [refused]
  rfl

/-- A query with the shape of a chart compiles, and its chart and its table, of two equal stores,
ask the same, give back the same streams, and fail with the same error or not at all; the chart is
made of the rows of the table and of the labels of its measures. A query without the shape is refused
with nothing asked of the store; a cursor of it that is already open is given back once, and nothing
is pulled of it. -/
theorem chart_agrees_with_table (q : Query) :
    (∀ shape, ChartShape.ofQuery q = .ok shape →
      q.compile = .ok ⟨q, q.statement⟩ ∧
      ∀ (s : MemoryStore) (log log' : List Record),
        let chart := run .lineChart q ⟨s, log⟩
        let table := run .table q ⟨s, log'⟩
        chart.2.state = s.asked q.statement (if s.failExecute then 0 else 1) ∧
        table.2.state = chart.2.state ∧
        (∀ e, chart.1 = .error e ↔ table.1 = .error e) ∧
        ∀ report, chart.1 = .ok report ↔ ∃ t, table.1 = .ok (.table t) ∧
          report = .lineChart (shape.ofRows t.rows (t.measureHeaders.map Entry.label))) ∧
    ∀ e, ChartShape.ofQuery q = .error e →
      (∃ reason, e = .malformedShape reason) ∧
      (∀ t : Logged MemoryStore, run .lineChart q t = (.error (.query e), t)) ∧
      (∀ c : Cursor, c.query = q →
        c.lineChart = .error (.query e) ∧ c.drainChart = (.error (.query e), c)) ∧
      ∀ (s : Session) id c, s.cursor? id = some c → c.query = q →
        s.answer (.consume .lineChart id) = .error (.report (.query e)) ∧
        (Session.step (.consume .lineChart id) s).2.store =
          { s.store with released := s.store.released + 1 } ∧
        (Session.step (.consume .lineChart id) s).2.cursors = s.cursors.filter (·.1 ≠ id) := by
  refine ⟨fun shape shaped => ?_, fun e refused => ?_⟩
  · have asks := ChartShape.asks_of_ok shaped
    refine ⟨by simp [Query.compile, Query.asks_iff.mp asks], fun s log log' => ?_⟩
    obtain ⟨charted, chartState⟩ := run_asked (t := ⟨s, log⟩) (.inr ⟨shape, shaped⟩) asks
    obtain ⟨tabled, tableState⟩ := run_asked (t := ⟨s, log'⟩) (.inl rfl) asks
    intro chart table
    refine ⟨chartState, tableState.trans chartState.symm, ?_⟩
    rw [show chart.1 = _ from charted, show table.1 = _ from tabled]
    cases s.failExecute with
    | true => simp
    | false =>
      have same := Cursor.lineChart_eq_table (c := ⟨q, s.stream⟩) shaped
      simp only [Bool.false_eq_true, ↓reduceIte, ofCursor, same]
      cases Cursor.table ⟨q, s.stream⟩ <;> simp [Except.map, eq_comm]
  · refine ⟨ChartShape.malformed_of_error refused, run_refused refused, ?_, ?_⟩
    · rintro c rfl
      have drained : c.drainChart = (.error (.query e), c) := by
        unfold Cursor.drainChart
        rw [refused]
      exact ⟨by rw [c.lineChart_eq_drainChart, drained], drained⟩
    · rintro s id c open_ rfl
      exact Session.consume_refused open_ refused

/-- A query of nothing is no chart, and a store that takes no statement is not even asked. -/
theorem chart_agrees_with_table_unasked :
    ChartShape.ofQuery {} = .error (.malformedShape
        "a line chart needs at least one dimension and one measure") ∧
      (run .lineChart {} ⟨MemoryStore.scripted [] none true, []⟩).2.state =
        MemoryStore.scripted [] none true := by
  have refused : ChartShape.ofQuery {} = .error (.malformedShape
      "a line chart needs at least one dimension and one measure") := rfl
  obtain ⟨-, untouched, -⟩ := (chart_agrees_with_table {}).2 _ refused
  exact ⟨refused, by rw [untouched]⟩

/-- Event counts by date and name. -/
def countsByDateAndName : Query :=
  { countsByDate with dimensions := countsByDate.dimensions ++ [⟨"event_name", "Event Name", "name"⟩] }

/-- Rows and labels alone do not make a chart. Where there are no rows, a query of one dimension has
an empty series for each measure, and a query of two dimensions has no series. -/
theorem chart_not_of_rows_and_labels :
    ¬ ∃ ofRows : List Row → List String → List Series,
      ∀ (q : Query) (t : Logged MemoryStore) (table : Table) (series : List Series),
        (run .table q t).1 = .ok (.table table) → (run .lineChart q t).1 = .ok (.lineChart series) →
          series = ofRows table.rows (table.measureHeaders.map Entry.label) := by
  rintro ⟨ofRows, made⟩
  let t : Logged MemoryStore := ⟨.scripted [] none false, []⟩
  have one : [⟨"Event Count", []⟩] = ofRows [] ["Event Count"] := made countsByDate t _ _ rfl rfl
  have two : [] = ofRows [] ["Event Count"] := made countsByDateAndName t _ _ rfl rfl
  rw [← two] at one
  cases one

end Report
end Clickstream
