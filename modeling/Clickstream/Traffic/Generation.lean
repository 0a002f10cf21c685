import Clickstream.Event.Basic
import Clickstream.Traffic.Plan
import Clickstream.Traffic.Random
import Clickstream.Traffic.Storefront

/-! Generating a plan's traffic from a random source: first every visitor's first visit, then the
further visits, then the events of all visits. The calendar ends, so a run of returning visits
may fail. -/
namespace Clickstream

open Storefront

/-- One visit to the storefront, by one visitor on one device. -/
structure Visit where
  visitor : Nat
  clientId : String
  agent : Agent
  sessionId : String
  start : Instant

namespace Traffic

def minute : Nat := 60000

def day : Nat := 1440 * minute

/-- The instant so many milliseconds later. -/
def later (t : Instant) (millis : Nat) : Draw Instant := .orFail .outOfCalendar (t.addMillis? millis)

/-- An instant from `start` on and before `stop`, whole milliseconds after the first. An empty span
gives its start and takes no word. -/
def timeBetween (start stop : Instant) : Draw Instant := do
  let span := stop.millisSince start
  if span ≤ 0 then return start
  later start (← Draw.below 64 span.toNat)

/-- An identifier: a number of 31 bits, then the time in seconds. -/
def identifier (start : String) (t : Instant) : Draw String := do
  let n ← Draw.below 32 (1 <<< 31)
  return start ++ toString n.val ++ "." ++ toString t.unixSeconds

def clientId (t : Instant) : Draw String := identifier "GA4CT.CID." t

def sessionId (t : Instant) : Draw String := identifier "GA4CT.SID." t

/-- The first visit of a visitor, within the plan's window. -/
def firstVisit (p : Plan) (visitor : Nat) : Draw Visit := do
  let start ← timeBetween p.start p.stop
  let clientId ← clientId start
  let agent ← Draw.pick agents
  return ⟨visitor, clientId, agent, ← sessionId start, start⟩

/-- The first visits of `n` more visitors, after those given. -/
def firstVisits (p : Plan) (visits : Array Visit) : Nat → Draw (Array Visit)
  | 0 => return visits
  | n + 1 => do
    let visit ← firstVisit p visits.size
    firstVisits p (visits.push visit) n

/-- The next visit of the same visitor: one to 31 days after the start of this one. -/
def returnVisit (v : Visit) : Draw Visit := do
  let earliest ← later v.start day
  let latest ← later v.start (31 * day)
  let start ← timeBetween earliest latest
  return { v with sessionId := ← sessionId start, start }

/-- Visits of `n` returning visitors, after those given. `latest` holds the last visit of each. -/
def returnVisits (latest visits : Array Visit) : Nat → Draw (Array Visit)
  | 0 => return visits
  | n + 1 => do
    let visitor ← Draw.below 64 latest.size
    let visit ← returnVisit latest[visitor]
    returnVisits (latest.set visitor visit) (visits.push visit) n

/-- An event of a visit; the first part of the page's location is the storefront's. -/
def event (v : Visit) (action : Action) (value : Binary64) (t : Instant) (page : Page)
    (query referrer : String) : Event where
  accountId := account
  clientId := v.clientId
  sessionId := v.sessionId
  name := action.name
  value := value
  timestamp := t
  pageLocation := host ++ page.path ++ query
  pageTitle := page.title
  pageReferrer := referrer
  userAgent := v.agent.userAgent
  screenResolution := v.agent.screenResolution

/-- The view of the page that a visit begins on. -/
def landing (v : Visit) : Draw Event := do
  let page ← Draw.pick pages
  let channel ← Draw.pick channels
  let referrer ← Draw.pick channel.referrers
  let query ← Draw.pick channel.queries
  return event v .pageView (.zero false) v.start page query referrer

/-- An amount below 300, cut to hundredths. -/
def amount : Draw Binary64 := do
  let cents := ((← Draw.unit).mul (.ofNat 300)).mul (.ofNat 100)
  return cents.truncate.div (.ofNat 100)

/-- The page that an action ends on, and its value. -/
def outcome : Action → Draw (Page × Binary64)
  | .purchase => return (confirmation, ← amount)
  | .formSubmission => return (thankYou, .zero false)
  | _ => return (← Draw.pick pages, .zero false)

/-- Something that happens within half an hour of the start of one of the visits. -/
def action (visits : Array Visit) : Draw Event := do
  let v ← Draw.pick visits
  let t ← timeBetween v.start (← later v.start (30 * minute))
  let action ← Draw.pick actions
  let (page, value) ← outcome action
  let referrer ← Draw.pick pages
  return event v action value t page "" (host ++ referrer.path)

/-- The views that the visits begin with, after the events given. -/
def landings (events : Array Event) : List Visit → Draw (Array Event)
  | [] => return events
  | v :: rest => do
    let e ← landing v
    landings (events.push e) rest

/-- `n` more events of the visits, after those given. -/
def actions (visits : Array Visit) (events : Array Event) : Nat → Draw (Array Event)
  | 0 => return events
  | n + 1 => do
    let e ← action visits
    actions visits (events.push e) n

end Traffic

/-- The visits of a plan: the first ones of all visitors, then those of returning visitors. -/
def Plan.visits (p : Plan) : Draw (Array Visit) := do
  let first ← Traffic.firstVisits p #[] p.users
  Traffic.returnVisits first first (p.sessionCount - p.users)

/-- The events of a plan: the views that the visits begin with, then all others. -/
def Plan.events (p : Plan) : Draw (List Event) := do
  let visits ← p.visits
  let landings ← Traffic.landings #[] visits.toList
  return (← Traffic.actions visits landings (p.eventCount - p.sessionCount)).toList

/-- The events that the source gives for the plan. -/
def Plan.generate (p : Plan) (source : RandomSource) : Except GenerationFault (List Event) :=
  (p.events.run source 0).map Prod.fst

end Clickstream
