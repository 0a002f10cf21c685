import Clickstream.Database.Column
import Clickstream.Time.Instant

/-! A database server with scripted replies: it runs no statement, answers each with the next reply
that is meant for it, and records what it is sent. -/
namespace Clickstream.Database

/-- A value sent to the server. -/
inductive Field where
  | text (s : String)
  | numeric (d : Decimal)
  | bigint (i : Int)
  | timestamp (t : Instant)
  deriving DecidableEq

namespace Field

def typeName : Field → String
  | text _ => "text"
  | numeric _ => "numeric"
  | bigint _ => "int8"
  | timestamp _ => "timestamptz"

/-- The field as it is recorded; an instant as its microseconds since 2000. -/
def recorded : Field → String
  | text s => s
  | numeric d => d.text
  | bigint i => toString i
  | timestamp t => toString t.databaseMicros

end Field

/-- Where the server fails a statement. -/
inductive Failure where
  | prepare
  | execute
  /-- After the last row. -/
  | stream
  /-- After the rows that were copied in. -/
  | copy
  /-- The server ends the connection before it does anything. -/
  | hangup
  /-- The connection is lost once so many rows have come through, the server's own or those that are
  copied in. -/
  | cut (rows : Nat)
  deriving DecidableEq

/-- What the server has for one statement. -/
structure Reply where
  /-- The first word of the only statements that may have it, if they are singled out. -/
  word : Option String := none
  columns : List Column := []
  rows : List (List WireCell) := []
  failure : Option Failure := none
  /-- How many rows it says were copied, if not as many as came. -/
  count : Option Nat := none

namespace Reply

/-- The server fails the statement before it does anything. -/
def refuses (r : Reply) : Bool :=
  r.failure == some .prepare || r.failure == some .execute || r.failure == some .hangup

/-- There is no connection after the statement. -/
def breaks (r : Reply) : Bool :=
  match r.failure with
  | some .hangup | some (.cut _) => true
  | _ => false

/-- Those of these rows that come through. -/
def through {α : Type} (r : Reply) (rows : List α) : List α :=
  match r.failure with
  | some (.cut n) => rows.take n
  | _ => rows

/-- The rows that arrive. -/
def arrived (r : Reply) : List (List WireCell) := r.through r.rows

/-- What ends a statement that was not refused, if anything does: the loss of the connection, or this
failure. -/
def ending? (last : Failure) (r : Reply) : Option StatementFault :=
  match r.failure with
  | some (.cut _) => some .closed
  | some failure => if failure = last then some .server else none
  | none => none

end Reply

/-- A statement that reached the server. -/
structure Received where
  sql : String
  /-- The values of its parameters. -/
  parameters : List Field := []
  /-- The rows copied in with it. -/
  copied : Option (List (List Field)) := none

/-- What arrives of a statement: of the rows that are copied in, those that come through. -/
def Received.through (received : Received) (reply : Reply) : Received :=
  { received with copied := received.copied.map reply.through }

structure Server where
  /-- Where it can be reached. -/
  host : String
  /-- It refuses everyone who connects. -/
  refuses : Bool := false
  replies : List Reply := []
  received : List Received := []
  /-- It has ended the connection. -/
  closed : Bool := false

namespace Server

/-- The words that begin and end transactions; only replies that name them are for them. -/
def transactionWords : List String := ["START", "COMMIT", "ROLLBACK"]

def firstWord (sql : String) : String := ((Text.splitAt ' ' (Text.collapse sql)).head?).getD ""

/-- Whether a reply is for a statement with this first word. -/
def suits (word : String) (r : Reply) : Bool :=
  match r.word with
  | some w => w == word
  | none => !transactionWords.contains word

/-- The next reply if it is for the statement, else the empty reply. -/
def takeReply (word : String) (replies : List Reply) : Reply × List Reply :=
  match replies with
  | [] => ({}, [])
  | r :: rest => if suits word r then (r, rest) else ({}, r :: rest)

/-- Sends a statement with what belongs to it, of which nothing arrives where it is refused.
Nothing is sent after the connection has ended. -/
def send (sql : String) (attach : Received → Received) :
    StateM Server (Except StatementFault Reply) := fun s =>
  if s.closed then (.error .closed, s)
  else
    let (reply, replies) := takeReply (firstWord sql) s.replies
    let bare : Received := { sql := Text.collapse sql }
    let received := s.received ++ [if reply.refuses then bare else (attach bare).through reply]
    let result :=
      if reply.failure = some .hangup then .error .closed
      else if reply.refuses then .error .server else .ok reply
    (result, { s with replies, received, closed := reply.breaks })

/-- Runs a statement for its effect. -/
def command (sql : String) : StateM Server (Except StatementFault Unit) := do
  match ← send sql id with
  | .error fault => return .error fault
  | .ok reply =>
    match reply.ending? .stream with
    | some fault => return .error fault
    | none => return .ok ()

/-- Runs a statement for its rows; they are in the reply. -/
def query (sql : String) (parameters : List Field) :
    StateM Server (Except StatementFault Reply) :=
  send sql fun r => { r with parameters }

/-- Copies rows in and returns the server's count of them. -/
def copyIn (sql : String) (rows : List (List Field)) :
    StateM Server (Except StatementFault Nat) := do
  match ← send sql fun r => { r with copied := some rows } with
  | .error fault => return .error fault
  | .ok reply =>
    match reply.ending? .copy with
    | some fault => return .error fault
    | none => return .ok (reply.count.getD rows.length)

/-- Runs an action in a transaction. Where the commit is not reached everything is rolled back, as
far as the server still listens; a commit that fails is not rolled back. -/
def transaction {α : Type} (action : StateM Server (Except StatementFault α)) :
    StateM Server (Except StatementFault α) := do
  let result ← do
    match ← command "START TRANSACTION" with
    | .error fault => pure (.error fault)
    | .ok () => action
  match result with
  | .error fault =>
    let _ ← command "ROLLBACK"
    return .error fault
  | .ok a =>
    match ← command "COMMIT" with
    | .error fault => return .error fault
    | .ok () => return .ok a

end Server

namespace Reply

/-- All rows of a reply as they came, unless something ends them. -/
def allRows (r : Reply) : Except StatementFault (List (List WireCell)) :=
  match r.ending? .stream with
  | some fault => .error fault
  | none => .ok r.arrived

/-- The only row of a reply. A second row is noticed before what ends the rows. -/
def onlyRow (r : Reply) : Except StatementFault (List WireCell) :=
  match r.arrived, r.ending? .stream with
  | _ :: _ :: _, _ => .error .rowCount
  | _, some fault => .error fault
  | [row], none => .ok row
  | [], none => .error .rowCount

/-- The rows of a reply as cells, one by one. A row that cannot be read does not end them, a
failure of the server does. -/
def stream (r : Reply) : RowStream :=
  r.arrived.map (readRow r.columns) ++
    (r.ending? .stream).toList.map fun fault => .error (.query fault)

end Reply
end Clickstream.Database
