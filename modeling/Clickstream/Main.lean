import Clickstream.Program.Ingest
import Clickstream.Program.Report
import Clickstream.Program.Seed

/-! The command line: the name of a program, set up by the environment. There is no network here.
The database is a server that takes every statement and has no rows, so a run shows what a program
would print and how it would end. -/
namespace Clickstream

/-- The variables that programs look at. -/
def variableNames : List String := [
  "DB_HOST", "DB_PORT", "DB_USER", "DB_PASSWORD", "DB_NAME", "REPORT_DIMENSIONS",
  "REPORT_MEASURES", "REPORT_LIMIT", "REPORT_SHAPE", "SEED_USERS", "SEED_SESSIONS_PER_USER",
  "SEED_EVENTS_PER_SESSION", "SEED_START", "SEED_END", filterVariable]

def environment : IO Variables :=
  variableNames.filterMapM fun name => do return (← IO.getEnv name).map (name, ·)

partial def readAll (input : IO.FS.Stream) (bytes : ByteArray) : IO ByteArray := do
  let more ← input.read 65536
  if more.isEmpty then return bytes else readAll input (bytes ++ more)

/-- The program with this name, given what it reads. -/
def program? (name : String) (vars : Variables) : IO (Option (Run String)) := do
  match name with
  | "report" => return some (Program.report vars)
  | "ingest" => return some (Program.ingest vars (← readAll (← IO.getStdin) .empty).toList)
  | "seed" =>
    let seed := Bytes.value (← IO.getRandomBytes 8).toList
    return some (Program.seed vars (.scripted #[] seed.toUInt64 (1 <<< 62)))
  | _ => return none

end Clickstream

open Clickstream in
def main (args : List String) : IO UInt32 := do
  let vars ← environment
  match ← program? (args.headD "") vars with
  | none =>
    IO.eprintln "usage: clickstream (report | ingest | seed)"
    return 2
  | some run =>
    let host := (vars.lookup "DB_HOST").getD "localhost"
    let (outcome, _) := run.outcome vars { host }
    outcome.complaints.forM IO.eprintln
    IO.print outcome.output
    return outcome.exitCode.toUInt32
