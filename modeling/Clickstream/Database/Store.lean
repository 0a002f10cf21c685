import Clickstream.Config.Basic
import Clickstream.Database.Address
import Clickstream.Database.Server

/-! The events relation in a database, and the statements that fill and read it. Events are checked
before anything is sent. -/
namespace Clickstream.Database
open Log

def createSql : String :=
  "CREATE TABLE IF NOT EXISTS events ( id BIGSERIAL PRIMARY KEY, account_id TEXT NOT NULL, " ++
  "client_id TEXT NOT NULL, session_id TEXT NOT NULL, name TEXT NOT NULL, " ++
  "value NUMERIC NOT NULL DEFAULT 0, timestamp TIMESTAMPTZ NOT NULL, " ++
  "page_location TEXT NOT NULL DEFAULT '', page_title TEXT NOT NULL DEFAULT '', " ++
  "page_referrer TEXT NOT NULL DEFAULT '', user_agent TEXT NOT NULL DEFAULT '', " ++
  "screen_resolution TEXT NOT NULL DEFAULT '' ); " ++
  "CREATE INDEX IF NOT EXISTS events_timestamp_idx ON events (timestamp);"

def insertSql : String :=
  "INSERT INTO events ( account_id, client_id, session_id, name, value, timestamp, " ++
  "page_location, page_title, page_referrer, user_agent, screen_resolution ) " ++
  "VALUES ($1, $2, $3, $4, $5, $6, $7, $8, $9, $10, $11) RETURNING id"

def recentSql : String := "SELECT id, name, value FROM events ORDER BY id DESC LIMIT $1"

def copySql : String :=
  "COPY events ( account_id, client_id, session_id, name, value, timestamp, " ++
  "page_location, page_title, page_referrer, user_agent, screen_resolution ) FROM STDIN BINARY"

/-- The types of the values in a row that is copied in, in the order of the columns. -/
def copyTypes : List String := [
  "text", "text", "text", "text", "numeric", "timestamptz", "text", "text", "text", "text", "text"]

/-- The values of an event with this amount, in the order of the places in an INSERT. -/
def eventFields (e : Event) (amount : Decimal) : List Field := [
  .text e.accountId, .text e.clientId, .text e.sessionId, .text e.name, .numeric amount,
  .timestamp e.timestamp, .text e.pageLocation, .text e.pageTitle, .text e.pageReferrer,
  .text e.userAgent, .text e.screenResolution]

/-- The values of an event that the relation can hold. -/
def eventRow (e : Event) : Except Event.Flaw (List Field) := do
  return eventFields e (← e.amount)

/-- The values of an event with this amount, in the order of the columns that are copied in. -/
def copiedFields (e : Event) (amount : Decimal) : List Field := [
  .text e.accountId, .text e.clientId, .text e.sessionId, .text e.name, .numeric amount,
  .timestamp e.timestamp, .text e.pageLocation, .text e.pageTitle, .text e.pageReferrer,
  .text e.userAgent, .text e.screenResolution]

private def asQuery {α : Type} (result : Except StatementFault α) : Except StoreError α :=
  result.mapError .query

namespace Server

/-- Creates the events relation where it is missing. -/
def ensureSchema : StateM Server (Except StoreError Unit) := do
  return asQuery (← command createSql)

/-- Stores an event and returns the identifier that the server gives it. -/
def insert (e : Event) : StateM Server (Except StoreError Int) := do
  match eventRow e with
  | .error flaw => return .error (.invalidEvent flaw)
  | .ok fields =>
    let reply ← query insertSql fields
    return asQuery do
      let reply ← reply
      let row ← reply.onlyRow
      if reply.columns.isEmpty then throw (.noColumn "0")
      readAt ["int8"] (readInt? 8) reply.columns row 0

/-- One of the newest events. -/
def summary (columns : List Column) (row : List WireCell) :
    Except StatementFault Event.Summary := do
  return {
    id := ← readNamed ["int8"] (readInt? 8) columns row "id"
    name := ← readNamed (textTypes ++ ["unknown"]) readText? columns row "name"
    value := (← readNamed ["numeric"] readNumeric? columns row "value").toBinary64 }

/-- The newest events, the newest first. -/
def recent (limit : Nat) : StateM Server (Except StoreError (List Event.Summary)) := do
  let reply ← query recentSql [.bigint limit]
  return asQuery do
    let reply ← reply
    (← reply.allRows).mapM (summary reply.columns)

/-- Stores events all at once or not at all, and returns the server's count of them. All amounts
are found before the first is paired with its event. -/
def copy (events : List Event) : Logging Server (Except StoreError Nat) := do
  match events.mapM Event.amount with
  | .error flaw => return .error (.invalidEvent flaw)
  | .ok amounts =>
    let rows := List.zipWith copiedFields events amounts
    match ← Logging.silent (transaction (copyIn copySql rows)) with
    | .error fault => return .error (.query fault)
    | .ok count =>
      Logging.write .debug "pixel_analytics::store::postgres"
        ("Copied " ++ toString count ++ " events")
      return .ok count

def execute (sql : String) : StateM Server (Except StoreError RowStream) := do
  return asQuery ((← query sql []).map Reply.stream)

instance : EventStore Server where
  insert := insert
  execute := execute
  release s := s

/-- Whether one of the endpoints is where the server listens. -/
def reachable (s : Server) (a : Address) : Bool := a.endpoints.contains (s.host, 5432)

/-- Connects to the server with a configuration. -/
def connect (c : DatabaseConfig) : Logging Server (Except StoreError Unit) := do
  let s := (← get).state
  let fault? : Option ConnectionFault :=
    match Address.read? c.connectionString with
    | none => some .malformedAddress
    | some a =>
      if !a.consistent then some .inconsistentAddress
      else if !s.reachable a then some .unreachable
      else if s.refuses then some .refused
      else none
  match fault? with
  | some fault => return .error (.connection fault)
  | none =>
    Logging.write .debug "pixel_analytics::store::postgres"
      ("Connected to " ++ c.host ++ ":" ++ toString c.port ++ "/" ++ c.database)
    return .ok ()

end Server
end Clickstream.Database
