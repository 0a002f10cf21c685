import Clickstream.Database.Numeric
import Clickstream.Store.Basic
import Clickstream.Text.Uppercase

/-! Cells as the database sends them: bytes that mean something only under their column's type. -/
namespace Clickstream.Database

/-- The bytes of a cell, or nothing for a null. -/
abbrev WireCell := Option (List UInt8)

structure Column where
  name : String
  typeName : String
  deriving DecidableEq

/-- The types whose cells are texts. -/
def textTypes : List String := ["text", "varchar", "bpchar", "name"]

def readText? (bytes : List UInt8) : Option String := String.fromUTF8? ⟨bytes.toArray⟩

/-- An integer of exactly `width` bytes. -/
def readInt? (width : Nat) (bytes : List UInt8) : Option Int :=
  if bytes.length = width then some (Bytes.signedValue bytes) else none

def readFloat? (bytes : List UInt8) : Option Binary64 :=
  if bytes.length = 8 then some (.ofBits (Bytes.value bytes)) else none

def readSingle? (bytes : List UInt8) : Option Binary64 :=
  if bytes.length = 4 then some (.ofBits32 (Bytes.value bytes)) else none

/-- A single byte; all but zero are true. -/
def readBool? : List UInt8 → Option Bool
  | [b] => some (b != 0)
  | _ => none

def readNumeric? (bytes : List UInt8) : Option Decimal := do (← Numeric.ofBytes? bytes).toDecimal?

/-- How the cells of a type are read, if there are cells for them. -/
def cellReader? (typeName : String) : Option (List UInt8 → Option Cell) :=
  if textTypes.contains typeName then some fun bytes => (readText? bytes).map .text
  else
    match typeName with
    | "int2" => some fun bytes => (readInt? 2 bytes).map .int
    | "int4" => some fun bytes => (readInt? 4 bytes).map .int
    | "int8" => some fun bytes => (readInt? 8 bytes).map .int
    | "float4" => some fun bytes => (readSingle? bytes).map .float
    | "float8" => some fun bytes => (readFloat? bytes).map .float
    | "numeric" => some fun bytes => (readNumeric? bytes).map .numeric
    | "bool" => some fun bytes => (readBool? bytes).map .bool
    | _ => none

/-- The cell in a column. A type without cells is refused even for a null. -/
def readCell (column : Column) (index : Nat) (cell : WireCell) : Except StoreError Cell :=
  match cellReader? column.typeName with
  | none => .error (.unsupportedColumnType column.name column.typeName)
  | some read =>
    match cell with
    | none => .ok .null
    | some bytes =>
      match read bytes with
      | some c => .ok c
      | none => .error (.query (.undecodable index))

/-- The cells of a row from the column with this index on; the first fault is the row's. -/
def readCells : Nat → List (Column × WireCell) → Except StoreError (List Cell)
  | _, [] => .ok []
  | index, (column, cell) :: rest => do
    let c ← readCell column index cell
    return c :: (← readCells (index + 1) rest)

def readRow (columns : List Column) (row : List WireCell) : Except StoreError (List Cell) :=
  readCells 0 (columns.zip row)

/-- The place of a column: of the first with this very name, else of the first whose name differs
in case alone. -/
def columnIndex? (columns : List Column) (name : String) : Option Nat :=
  match columns.findIdx? fun c => c.name == name with
  | some index => some index
  | none => columns.findIdx? fun c => Text.sameAscii c.name name

/-- The value at a place of a row, if its column has one of the types and it can be read. -/
def readAt {α : Type} (types : List String) (read : List UInt8 → Option α) (columns : List Column)
    (row : List WireCell) (index : Nat) : Except StatementFault α :=
  let value := do
    let column ← columns[index]?
    let cell ← row[index]?
    let bytes ← cell
    if types.contains column.typeName then read bytes else none
  match value with
  | some a => .ok a
  | none => .error (.undecodable index)

/-- The value in a column with this name. -/
def readNamed {α : Type} (types : List String) (read : List UInt8 → Option α)
    (columns : List Column) (row : List WireCell) (name : String) : Except StatementFault α :=
  match columnIndex? columns name with
  | none => .error (.noColumn name)
  | some index => readAt types read columns row index

end Clickstream.Database
