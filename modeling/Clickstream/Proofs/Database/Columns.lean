import Mathlib.Data.List.Basic
import Clickstream.Database.Store
import Clickstream.Proofs.Outcome
import Clickstream.Proofs.Text.Blank

/-! The rows that events make: which value stands under which column of a statement, in what is recorded
of an INSERT and of the rows that are copied in. -/
namespace Clickstream

/-- The events relation can hold the event: it is valid, and its value has a decimal form. -/
def Event.Storable (e : Event) : Prop :=
  e.validate = .ok () ∧ ∃ d, Decimal.ofBinary64? e.value = some d

namespace Database

section Statements

/-- The items of the first list in parentheses, and what follows the last of them. -/
def listed (cs : List Char) : List (List Char) × List Char :=
  let inside := (cs.dropWhile (· != '(')).drop 1
  ((Text.pieces (· == ',') (inside.takeWhile (· != ')'))).map fun item =>
    Text.trimEnd (Text.trimStart item), inside.dropWhile (· != ')'))

/-- The columns that a statement fills: its first list. -/
def columnsOf (sql : String) : List String := (listed sql.toList).1.map String.ofList

/-- What a statement fills its columns with: its second list. -/
def placesOf (sql : String) : List (List Char) := (listed (listed sql.toList).2).1

/-- The number of the parameter that a place such as `$3` stands for, counted from zero. -/
def placeIndex? : List Char → Option Nat
  | '$' :: digits => (digits? digits).map (· - 1)
  | _ => none

/-- The row that an INSERT adds: under each column the parameter in its place. -/
def Received.insertedRow (r : Received) : List (String × Option Field) :=
  (columnsOf r.sql).zip ((placesOf r.sql).map fun place => placeIndex? place >>= (r.parameters[·]?))

/-- A row that is copied in with a statement, under the columns of the statement. -/
def Received.copiedRow (r : Received) (row : List Field) : List (String × Option Field) :=
  (columnsOf r.sql).zip (row.map some)

end Statements

section Rows

/-- The values of an event with this amount, by the columns that are for them. -/
def columnValues (e : Event) (amount : Decimal) : List (String × Field) := [
  ("account_id", .text e.accountId), ("client_id", .text e.clientId),
  ("session_id", .text e.sessionId), ("name", .text e.name), ("value", .numeric amount),
  ("timestamp", .timestamp e.timestamp), ("page_location", .text e.pageLocation),
  ("page_title", .text e.pageTitle), ("page_referrer", .text e.pageReferrer),
  ("user_agent", .text e.userAgent), ("screen_resolution", .text e.screenResolution)]

/-- The row holds this event and nothing else: each value, its value as a decimal, under its column. -/
def Holds (e : Event) (row : List (String × Option Field)) : Prop :=
  ∃ d, Decimal.ofBinary64? e.value = some d ∧ row = (columnValues e d).map fun c => (c.1, some c.2)

/-- A row that is copied in with a statement holds this event. -/
def Received.Carries (copied : Received) (e : Event) (row : List Field) : Prop :=
  row.length = (columnsOf copied.sql).length ∧ Holds e (copied.copiedRow row)

/-- What is recorded of an INSERT of this event whose values reached the server. -/
def Inserts (e : Event) (r : Received) : Prop :=
  r.sql = Text.collapse insertSql ∧ r.parameters.length = (columnsOf r.sql).length ∧ Holds e r.insertedRow

/-- A row holds one event in one way. -/
theorem Holds.unique {e : Event} {row row' : List (String × Option Field)} (holds : Holds e row)
    (holds' : Holds e row') : row = row' := by
  obtain ⟨d, decimal, rfl⟩ := holds
  obtain ⟨d', decimal', rfl⟩ := holds'
  obtain rfl : d = d' := Option.some.inj (decimal.symm.trans decimal')
  rfl

end Rows

section Filled
variable {e : Event} {row : List Field}

private theorem statements_read :
    columnsOf (Text.collapse insertSql) = columnsOf (Text.collapse copySql) ∧
      columnsOf (Text.collapse copySql) = ["account_id", "client_id", "session_id", "name", "value",
        "timestamp", "page_location", "page_title", "page_referrer", "user_agent", "screen_resolution"] ∧
      (placesOf (Text.collapse insertSql)).map placeIndex? = (List.range 11).map some := by
  unfold columnsOf placesOf
  simp only [Text.toList_collapse]
  unfold insertSql copySql
  rewrite [String.toList_append, String.toList_append, String.toList_append, String.toList_ofList,
    String.toList_ofList, String.toList_ofList, String.toList_ofList, String.toList_ofList]
  exact ⟨congrArg (List.map String.ofList) (by decide +kernel), by decide +kernel, by decide +kernel⟩

/-- An event with an amount is valid, and the amount is its value as a decimal. -/
theorem amount_eq_ok {d : Decimal} :
    e.amount = .ok d ↔ e.validate = .ok () ∧ Decimal.ofBinary64? e.value = some d := by
  unfold Event.amount
  cases e.validate with
  | error flaw => simp [bind, Except.bind]
  | ok =>
    cases Decimal.ofBinary64? e.value with
    | none => simp [bind, Except.bind, throw, throwThe, MonadExceptOf.throw]
    | some d => simp [bind, Except.bind, pure, Except.pure]

theorem eventRow_ok :
    eventRow e = .ok row ↔
      e.validate = .ok () ∧ ∃ d, Decimal.ofBinary64? e.value = some d ∧ row = eventFields e d := by
  constructor
  · intro found
    obtain ⟨d, amount, found⟩ := bind_eq_ok.mp found
    obtain ⟨valid, decimal⟩ := amount_eq_ok.mp amount
    exact ⟨valid, d, decimal, (Except.ok.inj found).symm⟩
  · rintro ⟨valid, d, decimal, rfl⟩
    exact bind_eq_ok.mpr ⟨d, amount_eq_ok.mpr ⟨valid, decimal⟩, rfl⟩

theorem storable_iff : e.Storable ↔ ∃ row, eventRow e = .ok row := by
  simp only [eventRow_ok, Event.Storable]
  constructor
  · rintro ⟨valid, d, decimal⟩
    exact ⟨_, valid, d, decimal, rfl⟩
  · rintro ⟨_, valid, d, decimal, -⟩
    exact ⟨valid, d, decimal⟩

/-- The values of an event have the types that a copy announces. -/
theorem copied_types (made : eventRow e = .ok row) : row.map Field.typeName = copyTypes := by
  obtain ⟨-, d, -, rfl⟩ := eventRow_ok.mp made
  rfl

theorem columns_length : (columnsOf (Text.collapse copySql)).length = copyTypes.length := by
  rw [statements_read.2.1]
  rfl

/-- The rows that are copied in hold their events. -/
theorem carries_of_row {copied : Received} (sql : copied.sql = Text.collapse copySql)
    (made : eventRow e = .ok row) : copied.Carries e row := by
  obtain ⟨-, d, decimal, rfl⟩ := eventRow_ok.mp made
  unfold Received.Carries Received.copiedRow
  rw [sql, statements_read.2.1]
  exact ⟨rfl, d, decimal, rfl⟩

/-- The parameters of an INSERT fill its columns with the event, each in its place. -/
theorem inserts_of_row {r : Received} (sql : r.sql = Text.collapse insertSql)
    (made : eventRow e = .ok r.parameters) : Inserts e r := by
  obtain ⟨-, d, decimal, values⟩ := eventRow_ok.mp made
  obtain ⟨same, columns, places⟩ := statements_read
  have placed : (placesOf r.sql).map (fun place => placeIndex? place >>= (r.parameters[·]?)) =
      (eventFields e d).map some := by
    have split : (placesOf r.sql).map (fun place => placeIndex? place >>= (r.parameters[·]?)) =
        ((placesOf r.sql).map placeIndex?).map (· >>= (r.parameters[·]?)) := by
      rw [List.map_map]
      rfl
    rw [split, sql, places, values]
    rfl
  refine ⟨sql, ?_, d, decimal, ?_⟩
  · rw [sql, same, columns, values]
    rfl
  · rw [Received.insertedRow, placed, sql, same, columns]
    rfl

end Filled

section Batch
variable {events : List Event}

/-- Amounts that are found first and paired with their events later give the rows of the events. -/
theorem paired_rows (events : List Event) :
    (events.mapM Event.amount).map (List.zipWith copiedFields events) = events.mapM eventRow := by
  have same : copiedFields = eventFields := rfl
  induction events with
  | nil => rfl
  | cons e events ih =>
    rw [List.mapM_cons, List.mapM_cons, ← ih, eventRow, same]
    cases e.amount with
    | error flaw => rfl
    | ok d => cases events.mapM Event.amount <;> rfl

/-- Storable events have their rows one by one. -/
theorem rows_of_storable (storable : ∀ e ∈ events, e.Storable) :
    ∃ rows, events.mapM eventRow = .ok rows ∧
      List.Forall₂ (fun e row => eventRow e = .ok row) events rows := by
  cases mapped : events.mapM eventRow with
  | ok rows => exact ⟨rows, rfl, mapM_ok.mp mapped⟩
  | error flaw =>
    obtain ⟨_, e, there, refused, -⟩ := mapM_error.mp mapped
    obtain ⟨row, made⟩ := storable_iff.mp (storable e (List.mem_of_getElem? there))
    rw [made] at refused
    cases refused

/-- Of events that are not all storable, one is the reason. -/
theorem flaw_of_not_storable (flawed : ∃ e ∈ events, ¬ e.Storable) :
    ∃ e ∈ events, ∃ flaw, eventRow e = .error flaw ∧ events.mapM eventRow = .error flaw := by
  cases mapped : events.mapM eventRow with
  | error flaw =>
    obtain ⟨_, e, there, refused, -⟩ := mapM_error.mp mapped
    exact ⟨e, List.mem_of_getElem? there, flaw, refused, rfl⟩
  | ok rows =>
    have storable : List.Forall₂ (fun e row => e.Storable ∧ eventRow e = .ok row) events rows :=
      (mapM_ok.mp mapped).imp fun e row made => ⟨storable_iff.mpr ⟨row, made⟩, made⟩
    obtain ⟨e, there, not_⟩ := flawed
    exact absurd (((List.forall₂_and_left _ _).mp storable).1 e there) not_

end Batch

end Database
end Clickstream
