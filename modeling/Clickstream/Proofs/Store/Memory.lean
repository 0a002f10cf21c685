import Clickstream.Store.Memory

/-! What a store in memory answers statements with, item by item. -/
namespace Clickstream

namespace MemoryStore

/-- The item that every stream of the store yields at this place: a row, or the failure that ends
the rows early. -/
def item? (s : MemoryStore) (k : Nat) : Option (Except StoreError (List Cell)) :=
  let last := min (s.failAfter.getD s.rows.length) s.rows.length
  if k < last then s.rows[k]?.map .ok
  else if k = last then s.failAfter.map fun n => .error (.query (.aborted n))
  else none

/-- The store as it was set up, before any request. -/
def scripted (rows : List (List Cell)) (failAfter : Option Nat) (failExecute : Bool) :
    MemoryStore := { rows, failAfter, failExecute }

/-- The statement is taken, and a stream of rows is opened. -/
def takes (s : MemoryStore) (sql : String) : Bool :=
  match (s.execute sql).1 with
  | .error _ => false
  | .ok _ => true

theorem countP_takes (s : MemoryStore) (statements : List String) :
    statements.countP s.takes = if s.failExecute then 0 else statements.length := by
  cases h : s.failExecute with
  | true => simp [takes, execute, h]
  | false => simp [takes, execute, h]

theorem stream_getElem? (s : MemoryStore) (k : Nat) : s.stream[k]? = s.item? k := by
  unfold stream item?
  cases s.failAfter with
  | none =>
    by_cases h : k < s.rows.length
    · simp [h]
    · simp [h]
  | some n =>
    simp only [Option.getD_some, Option.map_some, List.getElem?_append, List.length_map,
      List.length_take, List.getElem?_map, List.getElem?_take]
    by_cases h : k < min n s.rows.length
    · have hn : k < n := by omega
      simp [h, hn]
    · by_cases he : k = min n s.rows.length
      · simp [he]
      · have hk : k - min n s.rows.length ≠ 0 := by omega
        simp [h, he, hk]

end MemoryStore
end Clickstream
