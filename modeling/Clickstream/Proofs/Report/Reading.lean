import Clickstream.Proofs.Database.Statement
import Clickstream.Proofs.Outcome
import Clickstream.Report.Cursor

/-! How the rows of a cursor are read: all of them or up to the first that fails, one pull after
another. -/
namespace Clickstream

namespace Cursor

/-- An item is cells that decode to this row under the query. -/
inductive Reads (q : Query) : Except StoreError (List Cell) → Row → Prop
  | row {cells : List Cell} {r : Row}
      (decoded : Row.decode cells q.dimensions.length q.measures.length = .ok r) :
      Reads q (.ok cells) r

/-- An item ends the reading of the query's rows with this error: it is a failure of the stream, or
cells that do not decode. -/
inductive Stops (q : Query) : Except StoreError (List Cell) → ReportError → Prop
  | stream (e : StoreError) : Stops q (.error e) (.store e)
  | cells {cells : List Cell} {e : DecodeError}
      (refused : Row.decode cells q.dimensions.length q.measures.length = .error e) :
      Stops q (.ok cells) (.decode e)

theorem decodeItem_ok {q : Query} {item : Except StoreError (List Cell)} {r : Row} :
    decodeItem q item = .ok r ↔ Reads q item r := by
  cases item with
  | error e => exact ⟨nofun, nofun⟩
  | ok cells =>
    rw [decodeItem, mapError_eq_ok]
    constructor
    · exact .row
    · rintro ⟨decoded⟩
      exact decoded

theorem decodeItem_error {q : Query} {item : Except StoreError (List Cell)} {e : ReportError} :
    decodeItem q item = .error e ↔ Stops q item e := by
  cases item with
  | error fault =>
    constructor
    · rintro ⟨⟩
      exact .stream fault
    · rintro ⟨⟩
      rfl
  | ok cells =>
    rw [decodeItem, mapError_eq_error]
    constructor
    · rintro ⟨fault, refused, rfl⟩
      exact .cells refused
    · rintro (_ | refused)
      exact ⟨_, refused, rfl⟩

theorem rest_ok {c : Cursor} {rows : List Row} :
    c.rest = .ok rows ↔ List.Forall₂ (Reads c.query) c.rows rows := by
  simp only [rest, mapM_ok, decodeItem_ok]

theorem table_ok {c : Cursor} {t : Table} :
    c.table = .ok t ↔
      ∃ rows, c.rest = .ok rows ∧ t = ⟨c.query.dimensions, c.query.measures, rows⟩ := by
  rw [table, map_eq_ok]
  constructor
  · rintro ⟨rows, read, rfl⟩
    exact ⟨rows, read, rfl⟩
  · rintro ⟨rows, read, rfl⟩
    exact ⟨rows, read, rfl⟩

/-- A stream that ends in a failure is not read whole. -/
theorem rest_ended {q : Query} {rows : RowStream} {e : StoreError} {read : List Row} :
    rest ⟨q, rows ++ [.error e]⟩ ≠ .ok read := by
  simp only [rest, List.mapM_append]
  cases rows.mapM (decodeItem q) <;> exact nofun

/-- A reply is read whole exactly if every row is and nothing ends the rows. -/
theorem rest_reply {q : Query} {reply : Database.Reply} {rows : List Row} :
    rest ⟨q, reply.stream⟩ = .ok rows ↔
      reply.ending? .stream = none ∧
        List.Forall₂ (fun wire row => Reads q (Database.readRow reply.columns wire) row)
          reply.rows rows := by
  unfold Database.Reply.stream
  cases ends : reply.ending? .stream with
  | some fault => simp [rest_ended]
  | none =>
    have all : reply.arrived = reply.rows := Database.Reply.through_of_ending ends _
    simp [all, rest_ok, List.forall₂_map_left_iff]

/-- The error of a cursor that is read out is that of its first item that is no row. -/
theorem rest_error {c : Cursor} {e : ReportError} :
    c.rest = .error e ↔
      ∃ (k : Nat) (item : Except StoreError (List Cell)),
        c.rows[k]? = some item ∧ Stops c.query item e ∧
          ∀ j < k, ∃ item r, c.rows[j]? = some item ∧ Reads c.query item r := by
  simp only [rest, mapM_error, decodeItem_ok, decodeItem_error]

/-- Pulls from a stream until its end or the first failure: the rows, and what is left of the
stream then. -/
def drainFrom (q : Query) : RowStream → Except ReportError (List Row) × RowStream
  | [] => (.ok [], [])
  | item :: items =>
    match decodeItem q item with
    | .error e => (.error e, items)
    | .ok row =>
      let (rows, left) := drainFrom q items
      (rows.map (row :: ·), left)

/-- Pulls rows until the end or the first failure: the rows, and the cursor as it is then. -/
def drain (c : Cursor) : Except ReportError (List Row) × Cursor :=
  let (rows, left) := drainFrom c.query c.rows
  (rows, { c with rows := left })

/-- What is read of a cursor at once is what is pulled of it. -/
theorem rest_eq_drain (c : Cursor) : c.rest = c.drain.1 := by
  obtain ⟨q, rows⟩ := c
  simp only [rest, drain]
  induction rows with
  | nil => rfl
  | cons item items ih =>
    rw [List.mapM_cons, drainFrom, ih]
    cases decodeItem q item with
    | error e => rfl
    | ok row =>
      generalize drainFrom q items = outcome
      obtain ⟨_ | _, left⟩ := outcome <;> rfl

end Cursor
end Clickstream
