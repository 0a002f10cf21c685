import Clickstream.Store.Basic
import Clickstream.Json.Tree

/-! Result rows decoded by position: texts for the dimensions, numbers for the measures. -/
namespace Clickstream

/-- A decoded row. -/
structure Row where
  dimensions : List String
  measures : List Binary64
  deriving DecidableEq

inductive DecodeError where
  | columnCount (expected found : Nat)
  | expectedText (column : Nat) (found : String)
  | expectedNumeric (column : Nat) (found : String)
  deriving DecidableEq

namespace DecodeError

def message : DecodeError → String
  | .columnCount expected found =>
    "Expected " ++ toString expected ++ " columns per row, found " ++ toString found
  | .expectedText column found => "Column " ++ toString column ++ " must be text, found " ++ found
  | .expectedNumeric column found =>
    "Column " ++ toString column ++ " must be numeric, found " ++ found

/-- The error as programs print it when they fail. -/
def dump : DecodeError → String
  | .columnCount expected found =>
    "ColumnCount \x7b expected: " ++ toString expected ++ ", found: " ++ toString found ++ " \x7d"
  | .expectedText column found =>
    "ExpectedText \x7b column: " ++ toString column ++ ", found: " ++ Text.quoted found ++ " \x7d"
  | .expectedNumeric column found =>
    "ExpectedNumeric \x7b column: " ++ toString column ++ ", found: " ++ Text.quoted found ++ " \x7d"

end DecodeError

/-- The text of a dimension's cell. -/
def Cell.asText (column : Nat) : Cell → Except DecodeError String
  | .text s => .ok s
  | cell => .error (.expectedText column cell.typeName)

/-- The number of a measure's cell. -/
def Cell.asNumber (column : Nat) : Cell → Except DecodeError Binary64
  | .int i => .ok (.ofInt i)
  | .float x => .ok x
  | .numeric d => .ok d.toBinary64
  | cell => .error (.expectedNumeric column cell.typeName)

namespace Row

/-- The cells from a column on, each read in turn; the leftmost fault is the error. -/
def decodeFrom {α : Type} (read : Nat → Cell → Except DecodeError α) (column : Nat) :
    List Cell → Except DecodeError (List α)
  | [] => .ok []
  | cell :: cells => do
    let a ← read column cell
    return a :: (← decodeFrom read (column + 1) cells)

/-- Exactly `dimensions` text cells, then exactly `measures` numbers. The count is checked first. -/
def decode (cells : List Cell) (dimensions measures : Nat) : Except DecodeError Row := do
  if cells.length ≠ dimensions + measures then
    throw (.columnCount (dimensions + measures) cells.length)
  let texts ← decodeFrom Cell.asText 0 (cells.take dimensions)
  let numbers ← decodeFrom Cell.asNumber dimensions (cells.drop dimensions)
  return ⟨texts, numbers⟩

def toTree (r : Row) : Json.Tree :=
  .record [
    ("dimension_values", .list (r.dimensions.map .text)),
    ("measure_values", .list (r.measures.map .number))]

end Row
end Clickstream
