import Clickstream.Number.Decimal
import Clickstream.Number.Layout
import Clickstream.Text.Blank
import Clickstream.Time.Instant

/-! Events: one hit of the tracking pixel each, and what keeps one from being stored. -/
namespace Clickstream

/-- One hit sent by the tracking pixel. -/
structure Event where
  accountId : String
  clientId : String
  sessionId : String
  name : String
  value : Binary64
  timestamp : Instant
  pageLocation : String
  pageTitle : String
  pageReferrer : String
  userAgent : String
  screenResolution : String
  deriving DecidableEq

namespace Event

/-- Why the events relation cannot hold an event. -/
inductive Flaw where
  | unnamed
  | notFinite (value : Binary64)
  /-- The value has no decimal form of the relation's width. -/
  | notDecimal
  deriving DecidableEq

def Flaw.message : Flaw → String
  | .unnamed => "event_name is empty"
  | .notFinite value => "event_value " ++ Layout.plain.text value ++ " is not a finite number"
  | .notDecimal => "Error while converting to Decimal"

/-- The name must not be blank, then the value must be finite. -/
def validate (e : Event) : Except Flaw Unit :=
  if Text.trim e.name = "" then .error .unnamed
  else if !e.value.isFinite then .error (.notFinite e.value)
  else .ok ()

/-- The value of a valid event as a decimal. -/
def amount (e : Event) : Except Flaw Decimal := do
  e.validate
  match Decimal.ofBinary64? e.value with
  | some d => return d
  | none => throw .notDecimal

/-- Short listing of a stored event. -/
structure Summary where
  id : Int
  name : String
  value : Binary64
  deriving DecidableEq

end Event
end Clickstream
