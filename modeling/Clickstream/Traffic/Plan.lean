import Clickstream.Config.Basic
import Clickstream.Number.Layout

/-! Plans of generated traffic: how many visitors there are, how often they come, how much they do,
and when they come first. -/
namespace Clickstream

structure TrafficConfig where
  users : Nat
  sessionsPerUser : Binary64
  eventsPerSession : Binary64
  start : Instant
  stop : Instant
  deriving DecidableEq

namespace TrafficConfig
open Log

def read (vars : Variables) : Except ConfigError TrafficConfig := do
  return {
    users := ← Config.setting vars "SEED_USERS" 12000 (whole? (UInt64.size - 1))
    sessionsPerUser :=
      ← Config.setting vars "SEED_SESSIONS_PER_USER" (.round false 5 2) Binary64.ofText?
    eventsPerSession :=
      ← Config.setting vars "SEED_EVENTS_PER_SESSION" (.round false 11 2) Binary64.ofText?
    start := ← Config.timeSetting vars "SEED_START" .startOf2023
    stop := ← Config.timeSetting vars "SEED_END" .endOf2023 }

def describe (c : TrafficConfig) : String :=
  "SeedConfig loaded: users=" ++ toString c.users ++
    ", sessions_per_user=" ++ Layout.plain.text c.sessionsPerUser ++
    ", events_per_session=" ++ Layout.plain.text c.eventsPerSession ++
    ", start=" ++ c.start.plainText ++ ", end=" ++ c.stop.plainText

def load {σ : Type} (vars : Variables) : Logging σ (Except ConfigError TrafficConfig) :=
  Config.noted describe (read vars)

end TrafficConfig

/-- Why no traffic can be planned. -/
inductive PlanError where
  | noUsers
  | tooFew (sessionsPerUser eventsPerSession : Binary64)
  | emptyWindow (start stop : Instant)
  deriving DecidableEq

namespace PlanError

def message : PlanError → String
  | .noUsers => "At least one user is required"
  | .tooFew sessions events =>
    "Sessions per user and events per session must each be at least 1, got " ++
      Layout.plain.text sessions ++ " and " ++ Layout.plain.text events
  | .emptyWindow start stop =>
    "Seed window is empty: " ++ start.plainText ++ " is not before " ++ stop.plainText

/-- The error as programs print it when they fail. -/
def dump : PlanError → String
  | .noUsers => "NoUsers"
  | .tooFew sessions events =>
    "TooFewPerUser \x7b sessions_per_user: " ++ Layout.dump.text sessions ++
      ", events_per_session: " ++ Layout.dump.text events ++ " \x7d"
  | .emptyWindow start stop =>
    "EmptyWindow \x7b start: " ++ start.zuluText ++ ", end: " ++ stop.zuluText ++ " \x7d"

end PlanError

/-- A plan that can be carried out. -/
structure Plan extends TrafficConfig where
  users_pos : 0 < users
  sessions_atLeast : sessionsPerUser.atLeast 1
  events_atLeast : eventsPerSession.atLeast 1
  window : start.before stop

namespace Plan

def ofConfig (c : TrafficConfig) : Except PlanError Plan :=
  if users_pos : 0 < c.users then
    if ratios : c.sessionsPerUser.atLeast 1 ∧ c.eventsPerSession.atLeast 1 then
      if window : c.start.before c.stop then
        .ok ⟨c, users_pos, ratios.1, ratios.2, window⟩
      else .error (.emptyWindow c.start c.stop)
    else .error (.tooFew c.sessionsPerUser c.eventsPerSession)
  else .error .noUsers

/-- Counts do not exceed the greatest 64-bit word. -/
def countBound : Nat := UInt64.size - 1

/-- The number of visits: every visitor comes at least once. -/
def sessionCount (p : Plan) : Nat :=
  max (((Binary64.ofNat p.users).mul p.sessionsPerUser).clamp countBound) p.users

/-- The number of events: there is at least one in each visit. -/
def eventCount (p : Plan) : Nat :=
  max ((((Binary64.ofNat p.users).mul p.sessionsPerUser).mul p.eventsPerSession).clamp countBound)
    p.sessionCount

end Plan
end Clickstream
