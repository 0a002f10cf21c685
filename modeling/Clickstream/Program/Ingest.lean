import Clickstream.Event.Document
import Clickstream.Program.Basic

/-! The program that stores one event for each line of its input. Lines that are no events are
skipped, but a line that is no text ends the run. -/
namespace Clickstream.Program

open Database

def ingestName : String := "ingest"

/-- How many lines were stored and how many skipped. Blank lines count as neither. -/
structure Tally where
  inserted : Nat := 0
  skipped : Nat := 0
  deriving DecidableEq

/-- The lines of an input without what surrounds their contents; nothing for a line that is no
text. An empty line after the last line feed is none. -/
def lines (input : List UInt8) : List (Option String) :=
  let pieces := Text.pieces (· == 10) input
  let pieces := if pieces.getLast?.all List.isEmpty then pieces.dropLast else pieces
  pieces.map fun bytes => (String.fromUTF8? ⟨bytes.toArray⟩).map Text.trim

/-- What is said of a text that is no event. -/
def complaint : Json.Fault → String
  | .eof => "Skipping malformed event: EOF while parsing"
  | .syntactic => "Skipping malformed event: syntax error"
  | .data message => "Skipping malformed event: " ++ message

/-- Stores the event of one line. -/
def ingestText (text : String) (t : Tally) : Run Tally := do
  match Event.read text with
  | .error fault =>
    Run.note .warn ingestName (complaint fault)
    return { t with skipped := t.skipped + 1 }
  | .ok e =>
    match ← Run.lift (Log.Logging.silent (Server.insert e)) with
    | .ok id =>
      Run.note .debug ingestName ("Inserted " ++ e.name ++ " event with ID: " ++ toString id)
      return { t with inserted := t.inserted + 1 }
    | .error (.invalidEvent flaw) =>
      Run.note .warn ingestName ("Skipping invalid event: " ++ flaw.message)
      return { t with skipped := t.skipped + 1 }
    | .error e =>
      Run.note .error ingestName ("Failed to insert event: " ++ e.message)
      throw (.store e)

/-- Goes through lines in order. -/
def ingestLines : List (Option String) → Tally → Run Tally
  | [], t => return t
  | none :: _, _ => throw .invalidText
  | some text :: rest, t => do
    let t ← if text = "" then pure t else ingestText text t
    ingestLines rest t

/-- Connects, creates the events relation where it is missing, and stores the input's events. -/
def ingest (vars : Variables) (input : List UInt8) : Run String := do
  Run.connect ingestName vars
  Run.stored ingestName "Failed to create the events relation" Server.ensureSchema
  let t ← ingestLines (lines input) {}
  Run.note .info ingestName
    ("Inserted " ++ toString t.inserted ++ " events, skipped " ++ toString t.skipped)
  return ""

end Clickstream.Program
