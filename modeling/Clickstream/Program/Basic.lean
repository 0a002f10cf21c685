import Clickstream.Database.Store
import Clickstream.Log.Filter
import Clickstream.Traffic.Generation

/-! Programs: runs against a database server that log, and end with an output or an error. What a
run leaves behind is all in its outcome and in the server's record. -/
namespace Clickstream
open Log

/-- Why a program fails. -/
inductive ProgramError where
  | config (e : ConfigError)
  | catalog (e : CatalogError)
  | plan (e : PlanError)
  | generation (fault : GenerationFault)
  | store (e : StoreError)
  | report (e : ReportError)
  /-- A line of the input is no text. -/
  | invalidText
  deriving DecidableEq

def GenerationFault.message : GenerationFault → String
  | .exhausted => "the random source is exhausted"
  | .outOfCalendar => "the calendar ends before the traffic"

namespace ProgramError

def message : ProgramError → String
  | config e => e.message
  | catalog e => e.message
  | plan e => e.message
  | generation fault => fault.message
  | store e => e.message
  | report e => e.message
  | invalidText => "stream did not contain valid UTF-8"

/-- The error as it is printed at the end of a run. -/
def dump : ProgramError → String
  | config e => e.dump
  | catalog e => e.dump
  | plan e => e.dump
  | generation fault => fault.message
  | store e => e.dump
  | report e => e.dump
  | invalidText =>
    "Custom \x7b kind: InvalidData, error: \"stream did not contain valid UTF-8\" \x7d"

end ProgramError

/-- A run of a program, up to its output. -/
abbrev Run := ExceptT ProgramError (Logging Database.Server)

namespace Run

/-- A step that cannot fail the run. -/
def lift {α : Type} (step : Logging Database.Server α) : Run α := ExceptT.lift step

def note (level : Level) (program message : String) : Run Unit :=
  lift (Logging.write level program message)

/-- The value of a step. A step that failed is complained of in the log and ends the run. -/
def required {α : Type} (program complaint : String) (step : Logging Database.Server
    (Except ProgramError α)) : Run α := do
  match ← lift step with
  | .ok a => return a
  | .error e =>
    note .error program (complaint ++ ": " ++ e.message)
    throw e

/-- The value of a step on the store alone. -/
def stored {α : Type} (program complaint : String)
    (step : StateM Database.Server (Except StoreError α)) : Run α :=
  required program complaint do
    return (← Logging.silent step).mapError .store

/-- Connects to the database that the variables name. -/
def connect (program : String) (vars : Variables) : Run Unit := do
  let config ← required program "Failed to initialize Postgres config" do
    return (← DatabaseConfig.load vars).mapError .config
  required program "Failed to connect to the event store" do
    return (← Database.Server.connect config).mapError .store

end Run

/-- What a run leaves to see. -/
structure Outcome where
  exitCode : Nat
  output : String
  /-- Warnings about the filter, the log as filtered, and the error at last. -/
  complaints : List String
  deriving DecidableEq

/-- The variable with the filter of the log. -/
def filterVariable : String := "RUST_LOG"

/-- The outcome of a run on a server, and the server after it. -/
def Run.outcome (vars : Variables) (run : Run String) (server : Database.Server) :
    Outcome × Database.Server :=
  let (filter, refused) := Filter.read ((vars.lookup filterVariable).getD "")
  let warnings := refused.map fun text =>
    "warning: invalid logging spec '" ++ text ++ ", ignoring it"
  let (result, trace) := StateT.run (ExceptT.run run) ⟨server, []⟩
  let complaints := warnings ++ (trace.log.filter filter.keeps).flatMap Record.lines
  let outcome : Outcome :=
    match result with
    | .ok output => ⟨0, output, complaints⟩
    | .error e => ⟨1, "", complaints ++ ["Error: " ++ e.dump]⟩
  (outcome, trace.state)

end Clickstream
