import Clickstream.Report.Basic
import Clickstream.Store.Memory

/-! Sessions: one store in memory with any number of named cursors open on it. -/
namespace Clickstream
open Log

/-- A request of a session. -/
inductive Request where
  | openCursor (id : String) (q : Query)
  /-- Opens a cursor of the query on a statement that was not compiled from it. -/
  | openRaw (id : String) (q : Query) (sql : String)
  | next (id : String)
  | describe (id : String)
  | close (id : String)
  | consume (shape : ReportShape) (id : String)
  | report (shape : ReportShape) (q : Query)
  | drain (sql : String)
  | insert (e : Event)

/-- The answer to a request that did not fail. -/
inductive Reply where
  | done
  | opened (sql : String)
  | row (r : Option Row)
  | query (q : Query)
  | report (r : Report)
  | rows (items : RowStream)
  | inserted (id : Int)

inductive RequestError where
  | noCursor
  | report (e : ReportError)
  | store (e : StoreError)

def RequestError.message : RequestError → String
  | .noCursor => "no such cursor"
  | .report e => e.message
  | .store e => e.message

/-- A store with its open cursors by name, the latest first. -/
structure Session where
  store : MemoryStore
  cursors : List (String × Cursor) := []
  log : List Record := []

namespace Session

/-- An action on the session's store. -/
def onStore {α : Type} (action : Logging MemoryStore α) : StateM Session α := fun s =>
  let (a, t) := action.run ⟨s.store, s.log⟩
  (a, { s with store := t.state, log := t.log })

def cursor? (s : Session) (id : String) : Option Cursor := s.cursors.lookup id

/-- Forgets the cursor of this name and releases it, if there is one. -/
def dropCursor (id : String) : StateM Session Unit := do
  if ((← get).cursor? id).isSome then
    modify fun s => { s with cursors := s.cursors.filter (·.1 ≠ id) }
    onStore Cursor.release

/-- Keeps a new cursor; an older one of its name is released. -/
def keep (id : String) (c : Cursor) : StateM Session Unit := do
  dropCursor id
  modify fun s => { s with cursors := (id, c) :: s.cursors }

def step : Request → StateM Session (Except RequestError Reply)
  | .openCursor id q => do
    match ← onStore (Cursor.openOn q) with
    | .error e => return .error (.report e)
    | .ok (cursor, sql) =>
      keep id cursor
      return .ok (.opened sql)
  | .openRaw id q sql => do
    match ← onStore (Logging.silent (EventStore.execute sql)) with
    | .error e => return .error (.store e)
    | .ok rows =>
      keep id ⟨q, rows⟩
      return .ok .done
  | .next id => do
    match (← get).cursor? id with
    | none => return .error .noCursor
    | some cursor =>
      let (result, later) := cursor.next
      modify fun s => { s with
        cursors := s.cursors.map fun entry => if entry.1 = id then (id, later) else entry }
      return (result.map .row).mapError .report
  | .describe id => do
    match (← get).cursor? id with
    | none => return .error .noCursor
    | some cursor => return .ok (.query cursor.query)
  | .close id => do
    match (← get).cursor? id with
    | none => return .error .noCursor
    | some _ =>
      dropCursor id
      return .ok .done
  | .consume shape id => do
    match (← get).cursor? id with
    | none => return .error .noCursor
    | some cursor =>
      dropCursor id
      return ((Report.ofCursor shape cursor).map .report).mapError .report
  | .report shape q => do
    return ((← onStore (Report.run shape q)).map .report).mapError .report
  | .drain sql => do
    match ← onStore (Logging.silent (EventStore.execute sql)) with
    | .error e => return .error (.store e)
    | .ok rows =>
      onStore (Logging.silent (modify EventStore.release))
      return .ok (.rows rows)
  | .insert e => do
    return ((← onStore (Logging.silent (EventStore.insert e))).map .inserted).mapError .store

/-- Releases every cursor that is still open. -/
def finish : StateM Session Unit := do
  for (id, _) in (← get).cursors do
    dropCursor id

end Session
end Clickstream
