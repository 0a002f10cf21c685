import Clickstream.Proofs.Query.Statement
import Clickstream.Proofs.Report.Reading
import Clickstream.Proofs.Session.Step
import Clickstream.Proofs.Store.Memory

/-! Tables are all or nothing: which queries and scripts give one, what it holds then, and which of
the faults on the way is the error otherwise. -/
namespace Clickstream
open Log

namespace MemoryStore

/-- The store after a statement that it took or refused, with so many streams given back. -/
def asked (s : MemoryStore) (sql : String) (streams : Nat) : MemoryStore :=
  { s with statements := s.statements ++ [sql], released := s.released + streams }

end MemoryStore

namespace Report
variable {q : Query} {t : Logged MemoryStore}

/-- A query of no entries is refused by the compiler. -/
theorem run_empty {shape : ReportShape}
    (fits : shape = .table ∨ ∃ s, ChartShape.ofQuery q = .ok s) (empty : ¬ q.Asks) :
    (run shape q t).1 = .error (.query .empty) := by
  rw [Query.not_asks_iff] at empty
  have refused : refusal? shape q = some .empty := by rw [refusal?_of_fits fits, if_pos empty]
  rw [run_of_refusal refused]

/-- A query that asks for something is answered by the script of the store. -/
theorem run_asked {shape : ReportShape}
    (fits : shape = .table ∨ ∃ s, ChartShape.ofQuery q = .ok s) (asks : q.Asks) :
    (run shape q t).1 =
        (if t.state.failExecute then .error (.store (.query (.rejected q.statement)))
        else ofCursor shape ⟨q, t.state.stream⟩) ∧
      (run shape q t).2.state =
        t.state.asked q.statement (if t.state.failExecute then 0 else 1) := by
  rw [Query.asks_iff] at asks
  refine run_scripted ?_ t
  rw [refusal?_of_fits fits, asks]
  rfl

/-- A stream is read whole exactly if the script lets it and every row decodes. -/
theorem rest_scripted {s : MemoryStore} {rows : List Row} :
    Cursor.rest ⟨q, s.stream⟩ = .ok rows ↔
      s.failAfter = none ∧ List.Forall₂
        (fun cells row => Row.decode cells q.dimensions.length q.measures.length = .ok row)
        s.rows rows := by
  cases script : s.failAfter with
  | none =>
    rw [Cursor.rest_ok]
    simp only [MemoryStore.stream, script, List.forall₂_map_left_iff, true_and]
    constructor <;> refine fun all => all.imp fun cells row => ?_
    · rintro ⟨decoded⟩
      exact decoded
    · exact .row
  | some n => simp [MemoryStore.stream, script, Cursor.rest_ended]

/-- The first item of a script that is no row for the query, and the error it ends a report with. -/
def FirstStop (s : MemoryStore) (q : Query) (k : Nat) (e : ReportError) : Prop :=
  (∃ item, s.item? k = some item ∧ Cursor.Stops q item e) ∧
    ∀ j < k, ∃ item r, s.item? j = some item ∧ Cursor.Reads q item r

theorem rest_stopped {s : MemoryStore} {e : ReportError} :
    Cursor.rest ⟨q, s.stream⟩ = .error e ↔ ∃ k, FirstStop s q k e := by
  simp only [Cursor.rest_error, FirstStop, s.stream_getElem?]
  constructor
  · rintro ⟨k, item, there, stops, earlier⟩
    exact ⟨k, ⟨item, there, stops⟩, earlier⟩
  · rintro ⟨k, ⟨item, there, stops⟩, earlier⟩
    exact ⟨k, item, there, stops, earlier⟩

private theorem table_ok {c : Cursor} {report : Report} :
    ofCursor .table c = .ok report ↔
      ∃ rows, c.rest = .ok rows ∧ report = .table ⟨c.query.dimensions, c.query.measures, rows⟩ := by
  simp only [ofCursor, map_eq_ok, Cursor.table_ok]
  constructor
  · rintro ⟨_, ⟨rows, read, rfl⟩, rfl⟩
    exact ⟨rows, read, rfl⟩
  · rintro ⟨rows, read, rfl⟩
    exact ⟨_, ⟨rows, read, rfl⟩, rfl⟩

private theorem table_error {c : Cursor} {e : ReportError} :
    ofCursor .table c = .error e ↔ c.rest = .error e := by
  simp only [ofCursor, Cursor.table, map_eq_error]

private theorem run_table_ok {report : Report} :
    (run .table q t).1 = .ok report ↔
      q.Asks ∧ t.state.failExecute = false ∧ t.state.failAfter = none ∧ ∃ rows,
        List.Forall₂
          (fun cells row => Row.decode cells q.dimensions.length q.measures.length = .ok row)
          t.state.rows rows ∧
        report = .table ⟨q.dimensions, q.measures, rows⟩ := by
  by_cases asks : q.Asks
  · rw [(run_asked (.inl rfl) asks).1]
    cases fails : t.state.failExecute with
    | true => simp
    | false =>
      simp only [Bool.false_eq_true, ↓reduceIte, table_ok, rest_scripted]
      constructor
      · rintro ⟨rows, ⟨whole, decoded⟩, rfl⟩
        exact ⟨asks, trivial, whole, rows, decoded, rfl⟩
      · rintro ⟨-, -, whole, rows, decoded, rfl⟩
        exact ⟨rows, ⟨whole, decoded⟩, rfl⟩
  · simp [run_empty (t := t) (.inl rfl) asks, asks]

/-- A table is all or nothing. It is there exactly if the query asks for something, the statement is
taken, the stream does not fail and every row decodes; it then holds all rows as they came, under
the headers that were asked for. Else the error is the earliest on the way: the query's, with nothing
asked of the store; the refusal of the statement, with no stream opened; or that of the first item of
the stream that is no row, with the one stream given back. -/
theorem table_all_or_nothing (q : Query) (t : Logged MemoryStore) :
    let answer := (run .table q t).1
    let after := (run .table q t).2.state
    (∀ report, answer = .ok report ↔
      (q.dimensions ≠ [] ∨ q.measures ≠ []) ∧ t.state.failExecute = false ∧
        t.state.failAfter = none ∧ ∃ rows,
          List.Forall₂
            (fun cells row => Row.decode cells q.dimensions.length q.measures.length = .ok row)
            t.state.rows rows ∧
          report = .table ⟨q.dimensions, q.measures, rows⟩) ∧
    (q.dimensions = [] → q.measures = [] →
      answer = .error (.query .empty) ∧ after = t.state) ∧
    (q.dimensions ≠ [] ∨ q.measures ≠ [] → t.state.failExecute = true →
      answer = .error (.store (.query (.rejected q.statement))) ∧
        after = t.state.asked q.statement 0) ∧
    (q.dimensions ≠ [] ∨ q.measures ≠ [] → t.state.failExecute = false →
      after = t.state.asked q.statement 1 ∧
        ∀ e, answer = .error e ↔ ∃ k, FirstStop t.state q k e) := by
  intro answer after
  refine ⟨fun report => run_table_ok, fun dimensions measures => ?_, fun asks fails => ?_,
    fun asks takes => ?_⟩
  · have empty : ¬ q.Asks := by simp [Query.Asks, dimensions, measures]
    refine ⟨run_empty (.inl rfl) empty, ?_⟩
    have nothing : (Request.report .table q).executed = [] := by
      simp [Request.executed, Request.statementsOf, Query.not_asks_iff.mp empty]
    simp [after, Session.run_eq, nothing]
  · obtain ⟨result, state⟩ := run_asked (t := t) (.inl rfl) asks
    rw [fails] at result state
    exact ⟨result, state⟩
  · obtain ⟨result, state⟩ := run_asked (t := t) (.inl rfl) asks
    rw [takes] at result state
    refine ⟨state, fun e => ?_⟩
    rw [show answer = _ from result]
    simp only [Bool.false_eq_true, ↓reduceIte, table_error, rest_stopped]

/-- Event counts by date. -/
def countsByDate : Query where
  dimensions := [⟨"date", "Date", "TO_CHAR(timestamp, 'YYYY-MM-DD')"⟩]
  measures := [⟨"event_count", "Event Count", "COUNT(*)"⟩]

/-- A row that is read does not save a table from the failure after it, and the row after the failure
does not count. -/
theorem table_all_or_nothing_aborted :
    let s : MemoryStore := .scripted [[.text "2023-01-01", .int 5], [.null, .null]] (some 1) false
    (run .table countsByDate ⟨s, []⟩).1 = .error (.store (.query (.aborted 1))) ∧
      (run .table countsByDate ⟨s, []⟩).2.state = s.asked countsByDate.statement 1 := by
  intro s
  obtain ⟨-, -, -, stopped⟩ := table_all_or_nothing countsByDate ⟨s, []⟩
  obtain ⟨state, errors⟩ := stopped (.inl (by simp [countsByDate])) rfl
  refine ⟨(errors _).mpr ⟨1, ⟨_, rfl, .stream _⟩, fun j hj => ?_⟩, state⟩
  obtain rfl : j = 0 := by omega
  exact ⟨_, _, rfl, .row rfl⟩

end Report
end Clickstream
