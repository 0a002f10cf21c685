import Clickstream.Proofs.Database.Row
import Clickstream.Proofs.Database.Statement
import Clickstream.Proofs.Report.Asking
import Clickstream.Proofs.Report.Decoding
import Clickstream.Proofs.Report.Reading
import Clickstream.Database.Store
import Clickstream.Store.Memory

/-! A store in memory stands in for a database: over the rows that the database's reply converts to, it
gives the same reports. Where a row does not convert, the first fault among the rows is the error. -/
namespace Clickstream
open Log

namespace Database

/-- The store in memory that is scripted after the server's reply to a statement, with these rows. -/
def Server.double (s : Server) (sql : String) (rows : List (List Cell)) : MemoryStore where
  rows := rows
  failAfter := ((s.replyTo sql).ending? .stream).map fun _ => rows.length
  failExecute := s.closed || (s.replyTo sql).refuses

end Database

namespace Report
open Database

/-- Two outcomes are the same, or both fail with a failed statement; what is said of it may differ. -/
inductive Alike : Except ReportError Report → Except ReportError Report → Prop
  | refl (outcome : Except ReportError Report) : Alike outcome outcome
  | statement (fault fault' : StatementFault) :
    Alike (.error (.store (.query fault))) (.error (.store (.query fault')))

/-- What is the matter with a row of a reply: its leftmost cell that cannot be read, of whatever kind
the faults further right are; or else, if all its cells can be read, what the decoder says of them. -/
inductive RowFault (columns : List Column) (q : Query) (row : List WireCell) : ReportError → Prop
  | cell {i : Nat} {column : Column} {cell : WireCell} {e : StoreError}
      (there : (columns.zip row)[i]? = some (column, cell)) (fault : CellFault column i cell e)
      (leftmost : ∀ j < i, ∀ column cell, (columns.zip row)[j]? = some (column, cell) →
        ∀ e, ¬ CellFault column j cell e) :
    RowFault columns q row (.store e)
  | decoding {cells : List Cell} {e : DecodeError} (converted : readRow columns row = .ok cells)
      (refused : Row.decode cells q.dimensions.length q.measures.length = .error e) :
    RowFault columns q row (.decode e)

variable {q : Query} {columns : List Column} {row : List WireCell}

theorem stops_iff {e : ReportError} :
    Cursor.Stops q (readRow columns row) e ↔ RowFault columns q row e := by
  constructor
  · generalize converted : readRow columns row = item
    rintro (fault | refused)
    · obtain ⟨i, column, cell, there, faulty, leftmost⟩ := readRow_error.mp converted
      exact .cell there faulty leftmost
    · exact .decoding converted refused
  · rintro (⟨there, faulty, leftmost⟩ | ⟨converted, refused⟩)
    · rw [readRow_error.mpr ⟨_, _, _, there, faulty, leftmost⟩]
      exact .stream _
    · rw [converted]
      exact .cells refused

/-- A row that is read has no fault. -/
theorem not_fault_of_reads {r : Row} (reads : Cursor.Reads q (readRow columns row) r) (e : ReportError) :
    ¬ RowFault columns q row e := by
  intro fault
  have stops := Cursor.decodeItem_error.mpr (stops_iff.mpr fault)
  rw [Cursor.decodeItem_ok.mpr reads] at stops
  cases stops

/-- The cells of a row that is read are no nulls, and have the types of their places. -/
theorem types_of_reads {r : Row} (reads : Cursor.Reads q (readRow columns row) r) :
    (columns.zip row).length = q.dimensions.length + q.measures.length ∧
      ∀ (i : Nat) (column : Column) (cell : WireCell), (columns.zip row)[i]? = some (column, cell) →
        cell ≠ none ∧ (i < q.dimensions.length → column.typeName ∈ textTypes) ∧
        (q.dimensions.length ≤ i → column.typeName ∈ numberTypes) := by
  generalize converted : readRow columns row = item at reads
  obtain ⟨decoded⟩ := reads
  obtain ⟨length, kinds⟩ := Row.decode_cells decoded
  obtain ⟨same, read⟩ := readRow_ok.mp converted
  refine ⟨same.trans length, fun i column cell there => ?_⟩
  obtain ⟨hi, -⟩ := List.getElem?_eq_some_iff.mp there
  have here := List.getElem?_eq_getElem (same ▸ hi)
  obtain ⟨text, number⟩ := kinds i _ here
  have made := readCell_made (read i column cell _ there here) fun null => by
    rcases Nat.lt_or_ge i q.dimensions.length with inside | beyond
    · simp [null, Cell.typeName] at text; omega
    · simp [null, Cell.typeName] at number; omega
  refine ⟨made.1, fun inside => ?_, fun beyond => ?_⟩
  · rcases made.2 with ⟨type, -⟩ | ⟨-, kind⟩ | ⟨-, kind⟩
    · exact type
    · simp [text inside] at kind
    · simp [text inside] at kind
  · have isNumber := number beyond
    rcases made.2 with ⟨-, kind⟩ | ⟨type, -⟩ | ⟨-, kind⟩
    · simp [kind] at isNumber
    · exact type
    · simp [kind] at isNumber

section Asked
variable {shape : ReportShape} {make : List Row → Report} (accepted : refusal? shape q = none)
  (made : ∀ rows, ofCursor shape ⟨q, rows⟩ = (Cursor.rest ⟨q, rows⟩).map make)
include accepted made

private theorem run_served_rest (t : Logged Server) :
    (run shape q t).1 = match (Server.execute q.statement t.state).1 with
      | .error e => .error (.store e)
      | .ok rows => (Cursor.rest ⟨q, rows⟩).map make := by
  simp only [← made]
  exact (run_of_accepted accepted t).1

private theorem run_scripted_rest (t : Logged MemoryStore) :
    (run shape q t).1 =
      if t.state.failExecute then .error (.store (.query (.rejected q.statement)))
      else (Cursor.rest ⟨q, t.state.stream⟩).map make := by
  rw [(run_scripted accepted t).1, made]

end Asked

private theorem rest_failing (q : Query) (rows : RowStream) (fault fault' : StatementFault) :
    (∃ e, Cursor.rest ⟨q, rows ++ [.error (.query fault)]⟩ = .error e ∧
      Cursor.rest ⟨q, rows ++ [.error (.query fault')]⟩ = .error e) ∨
    (Cursor.rest ⟨q, rows ++ [.error (.query fault)]⟩ = .error (.store (.query fault)) ∧
      Cursor.rest ⟨q, rows ++ [.error (.query fault')]⟩ = .error (.store (.query fault'))) := by
  simp only [Cursor.rest, List.mapM_append]
  cases rows.mapM (Cursor.decodeItem q) with
  | error e => exact .inl ⟨e, rfl, rfl⟩
  | ok read => exact .inr ⟨rfl, rfl⟩

section Reply
variable {reply : Database.Reply}

private theorem reads_of_rest {rows : List Row} (read : Cursor.rest ⟨q, reply.stream⟩ = .ok rows)
    {row : List WireCell} (there : row ∈ reply.rows) :
    ∃ r, Cursor.Reads q (readRow reply.columns row) r := by
  have each := (Cursor.rest_reply.mp read).2
  obtain ⟨i, hi, rfl⟩ := List.getElem_of_mem there
  exact ⟨_, (List.forall₂_iff_get.mp each).2 i hi (by rw [← each.length_eq]; exact hi)⟩

private theorem not_reads_of_cellFault {i : Nat} {column : Column} {cell : WireCell} {e : StoreError}
    (there : (columns.zip row)[i]? = some (column, cell)) (fault : CellFault column i cell e)
    (r : Row) : ¬ Cursor.Reads q (readRow columns row) r := by
  generalize converted : readRow columns row = item
  rintro ⟨-⟩
  obtain ⟨same, read⟩ := readRow_ok.mp converted
  obtain ⟨hi, -⟩ := List.getElem?_eq_some_iff.mp there
  have readable := read i column cell _ there (List.getElem?_eq_getElem (same ▸ hi))
  rw [readCell_error.mpr fault] at readable
  cases readable

private theorem rest_faulty {bad : List WireCell} (among : bad ∈ reply.arrived)
    (unread : ∀ r, ¬ Cursor.Reads q (readRow reply.columns bad) r) :
    ∃ (k : Nat) (row : List WireCell) (e : ReportError), reply.arrived[k]? = some row ∧
      RowFault reply.columns q row e ∧
      (∀ j < k, ∀ row, reply.arrived[j]? = some row → ∀ e, ¬ RowFault reply.columns q row e) ∧
      Cursor.rest ⟨q, reply.stream⟩ = .error e := by
  cases outcome : Cursor.rest ⟨q, reply.stream⟩ with
  | ok rows =>
    obtain ⟨r, reads⟩ := reads_of_rest outcome ((reply.through_prefix _).subset among)
    exact absurd reads (unread r)
  | error e =>
    obtain ⟨k, item, there, stops, earlier⟩ := Cursor.rest_error.mp outcome
    have placed {j : Nat} {row : List WireCell} (here : reply.arrived[j]? = some row) :
        reply.stream[j]? = some (readRow reply.columns row) := by
      obtain ⟨hj, -⟩ := List.getElem?_eq_some_iff.mp here
      rw [Database.Reply.stream, List.getElem?_append_left (by simpa using hj), List.getElem?_map, here]
      rfl
    have sound {j : Nat} (hj : j < k) {row : List WireCell} (here : reply.arrived[j]? = some row) :
        ∃ r, Cursor.Reads q (readRow reply.columns row) r := by
      obtain ⟨_, r, there, reads⟩ := earlier j hj
      obtain rfl := Option.some.inj ((placed here).symm.trans there)
      exact ⟨r, reads⟩
    obtain ⟨j, here⟩ := List.mem_iff_getElem?.mp among
    have inside : k ≤ j := by
      by_contra beyond
      obtain ⟨r, reads⟩ := sound (by omega) here
      exact unread r reads
    obtain ⟨hj, -⟩ := List.getElem?_eq_some_iff.mp here
    have row : reply.arrived[k]? = some reply.arrived[k] := List.getElem?_eq_getElem (by omega)
    obtain rfl := Option.some.inj ((placed row).symm.trans there)
    refine ⟨k, _, e, row, stops_iff.mp stops, fun j hj row here e => ?_, rfl⟩
    obtain ⟨r, reads⟩ := sound hj here
    exact not_fault_of_reads reads e

private theorem rest_double {s : Server} {sql : String} {rows : List (List Cell)}
    (converted : List.Forall₂ (fun row cells => readRow (s.replyTo sql).columns row = .ok cells)
      (s.replyTo sql).arrived rows) :
    (∃ outcome, Cursor.rest ⟨q, (s.replyTo sql).stream⟩ = outcome ∧
      Cursor.rest ⟨q, (s.double sql rows).stream⟩ = outcome) ∨
    ∃ fault fault', Cursor.rest ⟨q, (s.replyTo sql).stream⟩ = .error (.store (.query fault)) ∧
      Cursor.rest ⟨q, (s.double sql rows).stream⟩ = .error (.store (.query fault')) := by
  have read : (s.replyTo sql).arrived.map (readRow (s.replyTo sql).columns) = rows.map .ok := by
    rw [← List.forall₂_eq_eq_eq, List.forall₂_map_left_iff, List.forall₂_map_right_iff]
    exact converted
  unfold Database.Reply.stream MemoryStore.stream Server.double
  rw [read]
  cases (s.replyTo sql).ending? .stream with
  | some fault =>
    simp only [Option.map_some, List.take_length, Option.toList_some, List.map_cons, List.map_nil]
    rcases rest_failing q (rows.map .ok) fault (.aborted rows.length) with
      ⟨e, here, there⟩ | ⟨here, there⟩
    · exact .inl ⟨_, here, there⟩
    · exact .inr ⟨_, _, here, there⟩
  | none =>
    simp only [Option.map_none, Option.toList_none, List.map_nil, List.append_nil]
    exact .inl ⟨_, rfl, rfl⟩

end Reply

/-- A store in memory is a faithful double of a database for reports. Over what the rows that arrive convert
to, scripted to fail where the server or the connection does, it gives the same report or the same error, up
to what is said of a failed statement; so it does over any rows where none are read. If a cell that arrives
cannot be read, the error is the fault of the first row that has one. A report is made only of whole replies,
whose rows have a readable cell for each dimension and each measure, of a text and of a number type. -/
theorem memory_doubles_database (shape : ReportShape) (q : Query) (s : Server)
    (log log' : List Record) :
    let reply := s.replyTo q.statement
    let outcome := (run shape q (⟨s, log⟩ : Logged Server)).1
    let doubled rows := (run shape q (⟨s.double q.statement rows, log'⟩ : Logged MemoryStore)).1
    (∀ rows, List.Forall₂ (fun row cells => readRow reply.columns row = .ok cells) reply.arrived rows →
      Alike outcome (doubled rows)) ∧
    (refusal? shape q ≠ none ∨ s.closed = true ∨ reply.refuses = true →
      ∀ rows, Alike outcome (doubled rows)) ∧
    (refusal? shape q = none → s.closed = false → reply.refuses = false →
      (∃ row ∈ reply.arrived, ∃ (i : Nat) (column : Column) (cell : WireCell) (e : StoreError),
        (reply.columns.zip row)[i]? = some (column, cell) ∧ CellFault column i cell e) →
      ∃ (k : Nat) (row : List WireCell) (e : ReportError), reply.arrived[k]? = some row ∧
        RowFault reply.columns q row e ∧
        (∀ j < k, ∀ row, reply.arrived[j]? = some row → ∀ e, ¬ RowFault reply.columns q row e) ∧
        outcome = .error e) ∧
    ∀ report, outcome = .ok report → ∀ row ∈ reply.rows,
      (reply.columns.zip row).length = q.dimensions.length + q.measures.length ∧
        ∀ (i : Nat) (column : Column) (cell : WireCell),
          (reply.columns.zip row)[i]? = some (column, cell) →
            cell ≠ none ∧ (i < q.dimensions.length → column.typeName ∈ textTypes) ∧
            (q.dimensions.length ≤ i → column.typeName ∈ numberTypes) := by
  intro reply outcome doubled
  cases refused : refusal? shape q with
  | some e =>
    have same (rows : List (List Cell)) : Alike outcome (doubled rows) := by
      simp only [outcome, doubled, run_of_refusal refused]
      exact .refl _
    refine ⟨fun rows _ => same rows, fun _ => same, by simp, fun report answered => ?_⟩
    simp [outcome, run_of_refusal refused] at answered
  | none =>
    obtain ⟨make, made⟩ := ofCursor_of_accepted refused
    have here : outcome = _ := run_served_rest refused made ⟨s, log⟩
    have there (rows : List (List Cell)) : doubled rows =
        if s.closed || reply.refuses then .error (.store (.query (.rejected q.statement)))
        else (Cursor.rest ⟨q, (s.double q.statement rows).stream⟩).map make :=
      run_scripted_rest refused made ⟨s.double q.statement rows, log'⟩
    cases stopped : s.closed || reply.refuses with
    | true =>
      obtain ⟨fault, failed⟩ : ∃ fault, (Server.execute q.statement s).1 = .error (.query fault) := by
        cases answered : (Server.execute q.statement s).1 with
        | error e =>
          obtain ⟨fault, rfl⟩ := Server.execute_error answered
          exact ⟨fault, rfl⟩
        | ok rows =>
          obtain ⟨listening, runs, -⟩ := Server.execute_ok.mp answered
          simp [listening, runs, reply] at stopped
      have same (rows : List (List Cell)) : Alike outcome (doubled rows) := by
        rw [here, there, failed, if_pos stopped]
        exact .statement _ _
      refine ⟨fun rows _ => same rows, fun _ => same, fun _ listening runs => ?_, fun report ok => ?_⟩
      · simp [listening, runs] at stopped
      · rw [here, failed] at ok
        cases ok
    | false =>
      obtain ⟨listening, runs⟩ := Bool.or_eq_false_iff.mp stopped
      rw [Server.execute_ok.mpr ⟨listening, runs, rfl⟩] at here
      refine ⟨fun rows converted => ?_, fun stops => ?_, fun _ _ _ => ?_, fun report ok => ?_⟩
      · rw [here, there, if_neg (by simp [stopped])]
        rcases rest_double (q := q) converted with ⟨_, rfl, same⟩ | ⟨fault, fault', one, other⟩
        · rw [same]
          exact .refl _
        · simp only [one, other]
          exact .statement _ _
      · simp [listening, runs] at stops
      · rintro ⟨bad, among, i, column, cell, e, at_, fault⟩
        obtain ⟨k, row, e, first, faulty, earlier, stops⟩ :=
          rest_faulty (q := q) among (not_reads_of_cellFault at_ fault)
        exact ⟨k, row, e, first, faulty, earlier, by rw [here]; exact map_eq_error.mpr stops⟩
      · rw [here] at ok
        obtain ⟨rows, read, -⟩ := map_eq_ok.mp ok
        intro row among
        obtain ⟨r, reads⟩ := reads_of_rest read among
        exact types_of_reads reads

/-- Event counts by name. -/
def countsByName : Query where
  dimensions := Catalog.standard.dimensions.take 1
  measures := Catalog.standard.measures.take 1

/-- A server with one reply, which is for no statement around a transaction. -/
def replying (columns : List Column) (rows : List (List WireCell)) : Server :=
  { host := "localhost", replies := [{ columns, rows }] }

theorem replying_replyTo (columns : List Column) (rows : List (List WireCell)) (q : Query) :
    (replying columns rows).replyTo q.statement = { columns, rows } := by
  rw [Server.replyTo, Server.firstWord_statement]
  rfl

/-- A count that is sent as an integer is doubled, and so is the end of the connection. A null has a
fault if its column's type has no cells, and that fault comes before the null of the dimension. -/
theorem memory_doubles_database_counts :
    let counted := replying [⟨"d", "text"⟩, ⟨"n", "int8"⟩]
      [[some [100], some [0, 0, 0, 0, 0, 0, 0, 5]]]
    let foreign := replying [⟨"d", "text"⟩, ⟨"n", "uuid"⟩] [[none, none]]
    let answer (s : Server) := (run .table countsByName (⟨s, []⟩ : Logged Server)).1
    let doubled (s : Server) (rows : List (List Cell)) := (run .table countsByName
      (⟨s.double countsByName.statement rows, []⟩ : Logged MemoryStore)).1
    Alike (answer counted) (doubled counted [[.text "d", .int 5]]) ∧
      Alike (answer { counted with closed := true }) (doubled { counted with closed := true } []) ∧
      answer foreign = .error (.store (.unsupportedColumnType "n" "uuid")) := by
  intro counted foreign answer doubled
  have read : readRow [⟨"d", "text"⟩, ⟨"n", "int8"⟩] [some [100], some [0, 0, 0, 0, 0, 0, 0, 5]] =
      .ok [.text "d", .int 5] := by decide +kernel
  refine ⟨?_, ?_, ?_⟩
  · obtain ⟨doubles, -⟩ := memory_doubles_database .table countsByName counted [] []
    refine doubles _ ?_
    rw [replying_replyTo]
    exact .cons read .nil
  · obtain ⟨-, refuses, -⟩ :=
      memory_doubles_database .table countsByName { counted with closed := true } [] []
    exact refuses (.inr (.inl rfl)) []
  · obtain ⟨-, -, faulty, -⟩ := memory_doubles_database .table countsByName foreign [] []
    rw [replying_replyTo] at faulty
    obtain ⟨k, row, e, there, fault, -, ended⟩ := faulty rfl rfl rfl
      ⟨_, List.mem_singleton_self _, 1, _, _, _, rfl, .type none (by decide +kernel)⟩
    obtain ⟨hk, rfl⟩ := List.getElem?_eq_some_iff.mp there
    obtain rfl : k = 0 := by simpa [Database.Reply.arrived, Database.Reply.through] using hk
    have stops := Cursor.decodeItem_error.mpr (stops_iff.mpr fault)
    exact ended.trans (congrArg _ (Except.error.inj (stops.symm.trans rfl)))

end Report
end Clickstream
