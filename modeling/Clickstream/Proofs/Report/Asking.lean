import Clickstream.Report.Basic
import Clickstream.Store.Memory
import Clickstream.Proofs.Outcome

/-! Reports on any store: which queries are refused before the store is asked, and what the one
statement of the others comes to. -/
namespace Clickstream
open Log

namespace Report
variable {σ : Type} [EventStore σ] {shape : ReportShape} {q : Query}

/-- Why a query is refused as a report of this shape before the store is asked, if it is: it has not
the shape of a chart, or asks for nothing. -/
def refusal? (shape : ReportShape) (q : Query) : Option QueryError :=
  match shape, ChartShape.ofQuery q with
  | .lineChart, .error e => some e
  | _, _ => if q.isEmpty then some .empty else none

/-- A query that has the shape is refused only if it asks for nothing. -/
theorem refusal?_of_fits (fits : shape = .table ∨ ∃ s, ChartShape.ofQuery q = .ok s) :
    refusal? shape q = if q.isEmpty then some .empty else none := by
  unfold refusal?
  rcases fits with rfl | ⟨s, shaped⟩
  · rfl
  · rw [shaped]
    cases shape <;> rfl

/-- Nothing is asked for a query that is refused. -/
theorem run_of_refusal {e : QueryError} (refused : refusal? shape q = some e) (t : Logged σ) :
    run shape q t = (.error (.query e), t) := by
  have empty (refused : (if q.isEmpty then some QueryError.empty else none) = some e) :
      q.isEmpty = true ∧ e = .empty := by
    cases nothing : q.isEmpty with
    | true => simpa [nothing, eq_comm] using refused
    | false => simp [nothing] at refused
  unfold refusal? at refused
  unfold run
  cases shape with
  | table =>
    obtain ⟨nothing, rfl⟩ := empty refused
    simp only [Cursor.openOn, Query.prepare, Query.compile, nothing, ↓reduceIte]
    rfl
  | lineChart =>
    cases shaped : ChartShape.ofQuery q with
    | error fault =>
      simp only [shaped, Option.some.injEq] at refused
      subst refused
      rfl
    | ok s =>
      simp only [shaped] at refused
      obtain ⟨nothing, rfl⟩ := empty refused
      simp only [Cursor.openOn, Query.prepare, Query.compile, nothing, ↓reduceIte]
      rfl

theorem asks_of_accepted (accepted : refusal? shape q = none) : q.isEmpty = false := by
  unfold refusal? at accepted
  split at accepted
  · cases accepted
  · simpa using accepted

private theorem run_opens (accepted : refusal? shape q = none) :
    (run shape q : Logging σ _) = do
      match ← Cursor.openOn q with
      | .error e => return .error e
      | .ok (cursor, _) =>
        Cursor.release
        return ofCursor shape cursor := by
  unfold refusal? at accepted
  unfold run
  cases shape with
  | table => rfl
  | lineChart =>
    cases shaped : ChartShape.ofQuery q with
    | error e => simp [shaped] at accepted
    | ok s => rfl

private theorem openOn_executes (asks : q.isEmpty = false) (t : Logged σ) :
    ∃ log, Cursor.openOn q t =
      match EventStore.execute q.statement t.state with
      | (.error e, s) => (.error (.store e), ⟨s, log⟩)
      | (.ok rows, s) => (.ok (⟨q, rows⟩, q.statement), ⟨s, log⟩) := by
  obtain ⟨log, prepared⟩ : ∃ log, (q.prepare : Logging σ _) t =
      (.ok ⟨q, q.statement⟩, ⟨t.state, log⟩) := by
    unfold Query.prepare Query.compile
    rw [asks]
    exact ⟨_, rfl⟩
  refine ⟨log, ?_⟩
  simp only [Cursor.openOn, bind, StateT.bind]
  rw [prepared]
  simp only [StateT.bind, Logging.silent, StateT.run]
  generalize EventStore.execute q.statement t.state = outcome
  obtain ⟨_ | _, s⟩ := outcome <;> rfl

/-- A query that is not refused has its statement executed, once. Its rows are read out and given
back. -/
theorem run_of_accepted (accepted : refusal? shape q = none) (t : Logged σ) :
    (run shape q t).1 =
        (match (EventStore.execute q.statement t.state).1 with
          | .error e => .error (.store e)
          | .ok rows => ofCursor shape ⟨q, rows⟩) ∧
      (run shape q t).2.state =
        (match EventStore.execute q.statement t.state with
          | (.error _, s) => s
          | (.ok _, s) => EventStore.release s) := by
  obtain ⟨log, opened⟩ := openOn_executes (asks_of_accepted accepted) t
  rw [run_opens accepted]
  simp only [bind, StateT.bind]
  rw [opened]
  generalize EventStore.execute q.statement t.state = outcome
  obtain ⟨_ | _, s⟩ := outcome <;> exact ⟨rfl, rfl⟩

/-- A store in memory answers such a query with its script. -/
theorem run_scripted (accepted : refusal? shape q = none) (t : Logged MemoryStore) :
    (run shape q t).1 =
        (if t.state.failExecute then .error (.store (.query (.rejected q.statement)))
        else ofCursor shape ⟨q, t.state.stream⟩) ∧
      (run shape q t).2.state =
        { t.state with
          statements := t.state.statements ++ [q.statement]
          released := t.state.released + if t.state.failExecute then 0 else 1 } := by
  obtain ⟨answer, state⟩ := run_of_accepted accepted t
  rw [answer, state]
  simp only [EventStore.execute, MemoryStore.execute]
  cases t.state.failExecute <;> exact ⟨rfl, rfl⟩

/-- What a report comes to on a store in a state. -/
def answer (shape : ReportShape) (q : Query) (s : σ) : Except ReportError Report :=
  match refusal? shape q with
  | some e => .error (.query e)
  | none =>
    match (EventStore.execute q.statement s).1 with
    | .error e => .error (.store e)
    | .ok rows => ofCursor shape ⟨q, rows⟩

/-- The store after a report. -/
def after (shape : ReportShape) (q : Query) (s : σ) : σ :=
  match refusal? shape q with
  | some _ => s
  | none =>
    match EventStore.execute q.statement s with
    | (.error _, s) => s
    | (.ok _, s) => EventStore.release s

/-- Neither the report nor the store after it depends on the log. -/
theorem run_answers (shape : ReportShape) (q : Query) (s : σ) (log : List Record) :
    (run shape q ⟨s, log⟩).1 = answer shape q s ∧
      (run shape q ⟨s, log⟩).2.state = after shape q s := by
  unfold answer after
  cases refused : refusal? shape q with
  | some e =>
    rw [run_of_refusal refused]
    exact ⟨rfl, rfl⟩
  | none => exact run_of_accepted refused ⟨s, log⟩

theorem answer_ok {s : σ} {r : Report} :
    answer shape q s = .ok r ↔ refusal? shape q = none ∧ ∃ rows,
      (EventStore.execute q.statement s).1 = .ok rows ∧ ofCursor shape ⟨q, rows⟩ = .ok r := by
  unfold answer
  cases refusal? shape q with
  | some e => simp
  | none => cases (EventStore.execute q.statement s).1 <;> simp

/-- A report that is not refused is made of its rows alone. -/
theorem ofCursor_of_accepted (accepted : refusal? shape q = none) :
    ∃ make : List Row → Report, ∀ rows,
      ofCursor shape ⟨q, rows⟩ = (Cursor.rest ⟨q, rows⟩).map make := by
  cases shape with
  | table => exact ⟨fun rows => .table (.ofRows q rows), fun rows => by
      simp only [ofCursor, Cursor.table]
      cases Cursor.rest ⟨q, rows⟩ <;> rfl⟩
  | lineChart =>
    unfold refusal? at accepted
    cases shaped : ChartShape.ofQuery q with
    | error e => simp [shaped] at accepted
    | ok s =>
      refine ⟨fun rows => .lineChart (s.chart q.measures rows), fun rows => ?_⟩
      simp only [ofCursor, Cursor.lineChart, shaped]
      cases Cursor.rest ⟨q, rows⟩ <;> rfl

end Report
end Clickstream
