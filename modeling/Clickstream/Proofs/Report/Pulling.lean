import Clickstream.Proofs.Report.Chart

/-! Cursors that are pulled row by row and then made into a table or a chart: which pulls fail, and what
a failure means for what is made afterwards. -/
namespace Clickstream
namespace Cursor

/-- The item at this place of the stream is no row under the query, and this is its error. -/
def StopsAt (c : Cursor) (k : Nat) (e : ReportError) : Prop :=
  ∃ item, c.rows[k]? = some item ∧ Stops c.query item e

/-- So many pulls, whatever each comes to: the answers, and the cursor as it is then. -/
def pulls : Nat → Cursor → List (Except ReportError (Option Row)) × Cursor
  | 0, c => ([], c)
  | n + 1, c =>
    let (answer, later) := c.next
    let (answers, left) := pulls n later
    (answer :: answers, left)

/-- A pull takes one item off the stream, be it a row or not, and nothing else of it is kept. -/
theorem next_left (c : Cursor) : c.next.2 = { c with rows := c.rows.tail } := by
  obtain ⟨q, rows⟩ := c
  cases rows <;> rfl

theorem next_error {c : Cursor} {e : ReportError} : c.next.1 = .error e ↔ c.StopsAt 0 e := by
  obtain ⟨q, rows⟩ := c
  cases rows with
  | nil => simp [next, StopsAt]
  | cons item items => simp [next, StopsAt, decodeItem_error]

/-- What stops at a place of the stream stops one place earlier after a pull. -/
theorem next_stopsAt {c : Cursor} {k : Nat} {e : ReportError} :
    (c.next.2).StopsAt k e ↔ c.StopsAt (k + 1) e := by
  rw [next_left]
  unfold StopsAt
  rw [List.getElem?_tail]

/-- The pulls take their items off the stream, whether they fail or not. -/
theorem pulls_left (c : Cursor) (n : Nat) :
    (c.pulls n).2 = { c with rows := c.rows.drop n } := by
  induction n generalizing c with
  | zero => rfl
  | succ n ih =>
    calc (c.pulls (n + 1)).2
        = ((c.next.2).pulls n).2 := rfl
      _ = { c with rows := c.rows.tail.drop n } := by rw [ih, next_left]
      _ = { c with rows := c.rows.drop (n + 1) } := by rw [List.drop_tail]

/-- The errors of the pulls are those of the items that they took. -/
theorem pulls_error {c : Cursor} {n : Nat} {e : ReportError} :
    .error e ∈ (c.pulls n).1 ↔ ∃ k < n, c.StopsAt k e := by
  induction n generalizing c with
  | zero => simp [pulls]
  | succ n ih =>
    have step : .error e ∈ (c.pulls (n + 1)).1 ↔
        c.next.1 = .error e ∨ .error e ∈ ((c.next.2).pulls n).1 := by
      rw [eq_comm]
      exact List.mem_cons
    rw [step, next_error, ih]
    simp only [next_stopsAt]
    constructor
    · rintro (first | ⟨k, hk, stops⟩)
      · exact ⟨0, n.succ_pos, first⟩
      · exact ⟨k + 1, Nat.succ_lt_succ hk, stops⟩
    · rintro ⟨k, hk, stops⟩
      cases k with
      | zero => exact .inl stops
      | succ k => exact .inr ⟨k, Nat.lt_of_succ_lt_succ hk, stops⟩

/-- Items are read whole exactly if none of them stops the reading. -/
theorem reads_all_iff {q : Query} {items : RowStream} :
    (∃ rows, List.Forall₂ (Reads q) items rows) ↔ ∀ item ∈ items, ∀ e, ¬ Stops q item e := by
  induction items with
  | nil => simp
  | cons item items ih =>
    rw [List.forall_mem_cons, ← ih]
    cases here : decodeItem q item with
    | ok row =>
      have going : ∀ e, ¬ Stops q item e := by
        intro e stops
        rw [decodeItem_error.mpr stops] at here
        cases here
      constructor
      · rintro ⟨_, _ | ⟨_, reads⟩⟩
        exact ⟨going, _, reads⟩
      · rintro ⟨-, rows, reads⟩
        exact ⟨row :: rows, .cons (decodeItem_ok.mp here) reads⟩
    | error e =>
      constructor
      · rintro ⟨_, _ | ⟨read, _⟩⟩
        rw [decodeItem_ok.mpr read] at here
        cases here
      · rintro ⟨going, -⟩
        exact absurd (decodeItem_error.mp here) (going e)

/-- What is left after some places is read whole exactly if nothing stops from there on. -/
theorem reads_left_iff {c : Cursor} {n : Nat} :
    (∃ rows, List.Forall₂ (Reads c.query) (c.rows.drop n) rows) ↔ ∀ k e, n ≤ k → ¬ c.StopsAt k e := by
  rw [reads_all_iff]
  constructor
  · rintro going k e later ⟨item, there, stops⟩
    refine going item (List.mem_iff_getElem?.mpr ⟨k - n, ?_⟩) e stops
    rw [List.getElem?_drop, Nat.add_sub_cancel' later, there]
  · intro going item there e stops
    obtain ⟨i, here⟩ := List.mem_iff_getElem?.mp there
    rw [List.getElem?_drop] at here
    exact going (n + i) e (Nat.le_add_right n i) ⟨item, here, stops⟩

section Left
variable {c : Cursor} {n : Nat}

theorem pulls_table {t : Table} :
    ((c.pulls n).2).table = .ok t ↔ ∃ rows, List.Forall₂ (Reads c.query) (c.rows.drop n) rows ∧
      t = ⟨c.query.dimensions, c.query.measures, rows⟩ := by
  rw [pulls_left, table_ok]
  simp only [rest_ok]

theorem pulls_lineChart {series : List Series} :
    ((c.pulls n).2).lineChart = .ok series ↔ ∃ shape rows, ChartShape.ofQuery c.query = .ok shape ∧
      List.Forall₂ (Reads c.query) (c.rows.drop n) rows ∧
      series = shape.chart c.query.measures rows := by
  rw [pulls_left, lineChart_ok]

/-- There is a table exactly if nothing that is left stops the reading. -/
theorem pulls_table_iff :
    (∃ t, ((c.pulls n).2).table = .ok t) ↔ ∀ k e, n ≤ k → ¬ c.StopsAt k e := by
  rw [← reads_left_iff]
  constructor
  · rintro ⟨t, made⟩
    obtain ⟨rows, read, -⟩ := pulls_table.mp made
    exact ⟨rows, read⟩
  · rintro ⟨rows, read⟩
    exact ⟨_, pulls_table.mpr ⟨rows, read, rfl⟩⟩

/-- For a chart the query has to have the shape of one besides. -/
theorem pulls_lineChart_iff :
    (∃ series, ((c.pulls n).2).lineChart = .ok series) ↔
      (∃ shape, ChartShape.ofQuery c.query = .ok shape) ∧ ∀ k e, n ≤ k → ¬ c.StopsAt k e := by
  rw [← reads_left_iff]
  constructor
  · rintro ⟨series, made⟩
    obtain ⟨shape, rows, shaped, read, -⟩ := pulls_lineChart.mp made
    exact ⟨⟨shape, shaped⟩, rows, read⟩
  · rintro ⟨⟨shape, shaped⟩, rows, read⟩
    exact ⟨_, pulls_lineChart.mpr ⟨shape, rows, shaped, read, rfl⟩⟩

end Left

/-- What is made of a cursor after pulls is made of the items that they left, so a pull that failed
leaves no mark. The pulls fail as the items that they took. The table holds the rows that are left, and
the chart is drawn of them. Both are there, whatever the pulls came to, exactly if nothing that is left
stops the reading, and the chart if the query has the shape of one. So a result is handed out in spite of
a pull that failed exactly if an item that was taken stops and none of those left does. -/
theorem pulls_forgotten (c : Cursor) (n : Nat) :
    let answers := (c.pulls n).1
    let left := (c.pulls n).2
    (∀ e, .error e ∈ answers ↔ ∃ k < n, c.StopsAt k e) ∧
    (∀ t, left.table = .ok t ↔ ∃ rows, List.Forall₂ (Reads c.query) (c.rows.drop n) rows ∧
      t = ⟨c.query.dimensions, c.query.measures, rows⟩) ∧
    (∀ series, left.lineChart = .ok series ↔ ∃ shape rows, ChartShape.ofQuery c.query = .ok shape ∧
      List.Forall₂ (Reads c.query) (c.rows.drop n) rows ∧
      series = shape.chart c.query.measures rows) ∧
    ((∃ t, left.table = .ok t) ↔ ∀ k e, n ≤ k → ¬ c.StopsAt k e) ∧
    ((∃ series, left.lineChart = .ok series) ↔
      (∃ shape, ChartShape.ofQuery c.query = .ok shape) ∧ ∀ k e, n ≤ k → ¬ c.StopsAt k e) ∧
    ((∃ e, .error e ∈ answers) ∧ (∃ t, left.table = .ok t) ↔
      (∃ k < n, ∃ e, c.StopsAt k e) ∧ ∀ k e, n ≤ k → ¬ c.StopsAt k e) := by
  intro answers left
  refine ⟨fun e => pulls_error, fun t => pulls_table, fun series => pulls_lineChart, pulls_table_iff,
    pulls_lineChart_iff, and_congr ?_ pulls_table_iff⟩
  simp only [answers, pulls_error]
  constructor
  · rintro ⟨e, k, hk, stops⟩
    exact ⟨k, hk, e, stops⟩
  · rintro ⟨k, hk, e, stops⟩
    exact ⟨e, k, hk, stops⟩

/-- A stream that breaks off after its first row. The second pull fails, and yet there is a table of no
rows and a chart of no points afterwards. -/
theorem pulls_forgotten_aborted :
    let c : Cursor := ⟨Report.countsByDate, [.ok [.text "2023-01-01", .int 5],
      .error (.query (.aborted 1))]⟩
    .error (.store (.query (.aborted 1))) ∈ (c.pulls 2).1 ∧
      ((c.pulls 2).2).table =
        .ok ⟨Report.countsByDate.dimensions, Report.countsByDate.measures, []⟩ ∧
      ((c.pulls 2).2).lineChart = .ok [⟨"Event Count", []⟩] := by
  intro c
  obtain ⟨fails, table, chart, -⟩ := pulls_forgotten c 2
  refine ⟨(fails _).mpr ⟨1, by decide, _, rfl, .stream _⟩, (table _).mpr ⟨[], .nil, rfl⟩,
    (chart _).mpr ⟨.seriesPerMeasure, [], rfl, .nil, rfl⟩⟩

end Cursor
end Clickstream
