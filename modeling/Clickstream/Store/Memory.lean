import Clickstream.Store.Basic

/-! A store in memory that answers every statement with the same scripted rows. It records what
it is asked and counts the streams it gets back; the rows do not depend on its events. -/
namespace Clickstream

structure MemoryStore where
  rows : List (List Cell) := []
  /-- Streams yield at most so many rows, then fail. -/
  failAfter : Option Nat := none
  /-- No statement is taken. -/
  failExecute : Bool := false
  statements : List String := []
  events : List Event := []
  released : Nat := 0

namespace MemoryStore

/-- The rows that every statement is answered with. -/
def stream (s : MemoryStore) : RowStream :=
  match s.failAfter with
  | none => s.rows.map .ok
  | some n => (s.rows.take n).map .ok ++ [.error (.query (.aborted n))]

/-- Stores a valid event; the first one gets the identifier 1. -/
def insert (e : Event) : StateM MemoryStore (Except StoreError Int) := fun s =>
  match e.validate with
  | .error flaw => (.error (.invalidEvent flaw), s)
  | .ok () =>
    let events := s.events ++ [e]
    (.ok events.length, { s with events })

/-- Records the statement, taken or not. -/
def execute (sql : String) : StateM MemoryStore (Except StoreError RowStream) := fun s =>
  let s := { s with statements := s.statements ++ [sql] }
  (if s.failExecute then .error (.query (.rejected sql)) else .ok s.stream, s)

instance : EventStore MemoryStore where
  insert := insert
  execute := execute
  release s := { s with released := s.released + 1 }

end MemoryStore
end Clickstream
