import Clickstream.Event.Basic
import Clickstream.Text.Quoted

/-! Stores of events: what one offers, the cells of its result rows, and how it fails. -/
namespace Clickstream

/-- A cell of a result row. -/
inductive Cell where
  | null
  | bool (b : Bool)
  | int (i : Int)
  | float (x : Binary64)
  | numeric (d : Decimal)
  | text (s : String)
  deriving DecidableEq

def Cell.typeName : Cell → String
  | .null => "null"
  | .bool _ => "bool"
  | .int _ => "int"
  | .float _ => "float"
  | .numeric _ => "numeric"
  | .text _ => "text"

/-- Why there is no connection to a server. -/
inductive ConnectionFault where
  | malformedAddress
  | inconsistentAddress
  | unreachable
  | refused
  deriving DecidableEq

def ConnectionFault.message : ConnectionFault → String
  | .malformedAddress => "invalid connection string"
  | .inconsistentAddress => "invalid configuration"
  | .unreachable => "error connecting to server"
  | .refused => "db error"

/-- Why a statement or its rows failed. -/
inductive StatementFault where
  /-- The scripted store takes no statements. -/
  | rejected (sql : String)
  /-- The scripted store ends its rows early. -/
  | aborted (rows : Nat)
  /-- The server reports an error. -/
  | server
  /-- The server is gone. -/
  | closed
  /-- A cell cannot be read as the wanted type. -/
  | undecodable (column : Nat)
  | noColumn (column : String)
  | rowCount
  deriving DecidableEq

def StatementFault.message : StatementFault → String
  | .rejected sql => "statement rejected: " ++ sql
  | .aborted rows => "result stream aborted after " ++ toString rows ++ " rows"
  | .server => "db error"
  | .closed => "connection closed"
  | .undecodable column => "error deserializing column " ++ toString column
  | .noColumn column => "invalid column \x60" ++ column ++ "\x60"
  | .rowCount => "query returned an unexpected number of rows"

inductive StoreError where
  | connection (fault : ConnectionFault)
  | query (fault : StatementFault)
  | unsupportedColumnType (column typeName : String)
  | invalidEvent (flaw : Event.Flaw)
  deriving DecidableEq

namespace StoreError

def message : StoreError → String
  | .connection fault => "Connection error: " ++ fault.message
  | .query fault => "Query error: " ++ fault.message
  | .unsupportedColumnType column typeName =>
    "Unsupported type " ++ typeName ++ " for column " ++ column
  | .invalidEvent flaw => "Invalid event: " ++ flaw.message

/-- The error as programs print it when they fail. -/
def dump : StoreError → String
  | .connection fault => "Connection(" ++ Text.quoted fault.message ++ ")"
  | .query fault => "Query(" ++ Text.quoted fault.message ++ ")"
  | .unsupportedColumnType column typeName =>
    "UnsupportedColumnType \x7b column: " ++ Text.quoted column ++ ", type_name: " ++
      Text.quoted typeName ++ " \x7d"
  | .invalidEvent flaw => "InvalidEvent(" ++ Text.quoted flaw.message ++ ")"

end StoreError

/-- The rows of a result in the order they come. A failed row need not be the last. -/
abbrev RowStream := List (Except StoreError (List Cell))

/-- A store of events in a state of type `σ`. -/
class EventStore (σ : Type) where
  /-- Stores one event and returns its identifier. -/
  insert : Event → StateM σ (Except StoreError Int)
  /-- Runs a statement as it is and opens the stream of its rows. -/
  execute : String → StateM σ (Except StoreError RowStream)
  /-- Lets go of a stream that was opened. -/
  release : σ → σ

end Clickstream
