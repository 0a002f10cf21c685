import Clickstream.Event.Basic
import Clickstream.Json.Passing
import Clickstream.Json.Tree
import Clickstream.Time.Reader

/-! Events as JSON documents. An event is written as a record; it is read from a record, whose
unknown members are passed over, or from a list of the values in the order of the fields. -/
namespace Clickstream.Event

/-- The members of an event's record. -/
inductive Field where
  | accountId
  | clientId
  | sessionId
  | name
  | value
  | timestamp
  | pageLocation
  | pageTitle
  | pageReferrer
  | userAgent
  | screenResolution
  deriving DecidableEq

namespace Field

def all : List Field :=
  [accountId, clientId, sessionId, name, value, timestamp, pageLocation, pageTitle, pageReferrer,
   userAgent, screenResolution]

def key : Field → String
  | accountId => "account_id"
  | clientId => "client_id"
  | sessionId => "session_id"
  | name => "event_name"
  | value => "event_value"
  | timestamp => "timestamp"
  | pageLocation => "page_location"
  | pageTitle => "page_title"
  | pageReferrer => "page_referrer"
  | userAgent => "user_agent"
  | screenResolution => "screen_resolution"

/-- A document may leave the field out. -/
def isOptional : Field → Bool
  | accountId | clientId | sessionId | name | timestamp => false
  | _ => true

def ofKey? (key : String) : Option Field := all.find? fun field => field.key == key

end Field

/-- What has been read of an event so far. -/
structure Draft where
  accountId : Option String := none
  clientId : Option String := none
  sessionId : Option String := none
  name : Option String := none
  value : Option Binary64 := none
  timestamp : Option Instant := none
  pageLocation : Option String := none
  pageTitle : Option String := none
  pageReferrer : Option String := none
  userAgent : Option String := none
  screenResolution : Option String := none

namespace Draft

/-- The field has been read. -/
def has (d : Draft) : Field → Bool
  | .accountId => d.accountId.isSome
  | .clientId => d.clientId.isSome
  | .sessionId => d.sessionId.isSome
  | .name => d.name.isSome
  | .value => d.value.isSome
  | .timestamp => d.timestamp.isSome
  | .pageLocation => d.pageLocation.isSome
  | .pageTitle => d.pageTitle.isSome
  | .pageReferrer => d.pageReferrer.isSome
  | .userAgent => d.userAgent.isSome
  | .screenResolution => d.screenResolution.isSome

/-- The event, once its required fields are there; the fault names the first that is not. -/
def finish (missing : Field → Json.Fault) (d : Draft) : Except Json.Fault Event := do
  let require {α : Type} (field : Field) : Option α → Except Json.Fault α
    | some a => .ok a
    | none => .error (missing field)
  let accountId ← require .accountId d.accountId
  let clientId ← require .clientId d.clientId
  let sessionId ← require .sessionId d.sessionId
  let name ← require .name d.name
  let timestamp ← require .timestamp d.timestamp
  return {
    accountId, clientId, sessionId, name, timestamp
    value := d.value.getD (.zero false)
    pageLocation := d.pageLocation.getD ""
    pageTitle := d.pageTitle.getD ""
    pageReferrer := d.pageReferrer.getD ""
    userAgent := d.userAgent.getD ""
    screenResolution := d.screenResolution.getD "" }

end Draft

namespace Reading
open Json.Reading

/-- An instant value: a string, which is then read as an instant. -/
def instant : Json.Reading Instant := do
  let s ← text "an RFC 3339 formatted date and time string"
  match Instant.read s with
  | .ok t => return t
  | .error e => fail (.data e.message)

/-- Reads the value of a field into the draft. -/
def field (d : Draft) : Field → Json.Reading Draft
  | .accountId => return { d with accountId := some (← text "a string") }
  | .clientId => return { d with clientId := some (← text "a string") }
  | .sessionId => return { d with sessionId := some (← text "a string") }
  | .name => return { d with name := some (← text "a string") }
  | .value => return { d with value := some (← numeric "f64") }
  | .timestamp => return { d with timestamp := some (← instant) }
  | .pageLocation => return { d with pageLocation := some (← text "a string") }
  | .pageTitle => return { d with pageTitle := some (← text "a string") }
  | .pageReferrer => return { d with pageReferrer := some (← text "a string") }
  | .userAgent => return { d with userAgent := some (← text "a string") }
  | .screenResolution => return { d with screenResolution := some (← text "a string") }

/-- The members of a record after its opening brace, and its end. The fuel bounds their number. -/
def members (first : Bool) (d : Draft) : Nat → Json.Reading Draft
  | 0 => fail .syntactic
  | fuel + 1 => do
    if ← anotherMember first then
      skip
      let key ← string
      match Field.ofKey? key with
      | some f =>
        if d.has f then fail (.data ("duplicate field \x60" ++ key ++ "\x60"))
        colon
        let d ← field d f
        members false d fuel
      | none =>
        colon
        anyValue
        members false d fuel
    else
      skip
      return d

/-- The items of a list, as values of these fields in order; the last ones may be left out. -/
def items (first : Bool) (d : Draft) : List Field → Json.Reading Draft
  | [] => return d
  | f :: fields => do
    if ← anotherItem first then items false (← field d f) fields
    else if f.isOptional then items first d fields
    else
      let index := Field.all.idxOf f
      fail (.data ("invalid length " ++ toString index ++ ", expected struct Event with 11 elements"))

/-- An event value. -/
def event : Json.Reading Event := do
  blanks
  match ← peek? with
  | none => fail .eof
  | some '[' =>
    skip
    let d ← items true {} Field.all
    closeList
    StateT.lift (d.finish fun _ => .syntactic)
  | some '\x7b' =>
    skip
    let d ← members true {} ((← get).length + 1)
    StateT.lift (d.finish fun f => .data ("missing field \x60" ++ f.key ++ "\x60"))
  | some _ => mismatch "struct Event"

/-- An event value and nothing after it but blanks. -/
def document : Json.Reading Event := do
  let e ← event
  blanks
  unless (← get).isEmpty do fail .syntactic
  return e

end Reading

/-- The event that a JSON document holds. -/
def read (s : String) : Except Json.Fault Event := (Reading.document.run s.toList).map (·.1)

/-- The event as a JSON record. -/
def toTree (e : Event) : Json.Tree :=
  .record [
    (Field.accountId.key, .text e.accountId),
    (Field.clientId.key, .text e.clientId),
    (Field.sessionId.key, .text e.sessionId),
    (Field.name.key, .text e.name),
    (Field.value.key, .number e.value),
    (Field.timestamp.key, .text e.timestamp.zuluText),
    (Field.pageLocation.key, .text e.pageLocation),
    (Field.pageTitle.key, .text e.pageTitle),
    (Field.pageReferrer.key, .text e.pageReferrer),
    (Field.userAgent.key, .text e.userAgent),
    (Field.screenResolution.key, .text e.screenResolution)]

def Summary.toTree (s : Summary) : Json.Tree :=
  .record [("id", .integer s.id), ("name", .text s.name), ("value", .number s.value)]

end Clickstream.Event
