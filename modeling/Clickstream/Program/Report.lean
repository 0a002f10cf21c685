import Clickstream.Catalog.Validation
import Clickstream.Event.Document
import Clickstream.Program.Basic

/-! The program that prints a report, or the newest events, as one document. -/
namespace Clickstream.Program

open Database

def reportName : String := "report"

/-- What is asked for by a configuration, run and laid out. -/
def reportDocument (config : ReportConfig) (q : Query) : Run Json.Tree := do
  match config.shape with
  | .report shape =>
    match ← Run.lift (Clickstream.Report.run shape q) with
    | .ok r => return r.toTree
    | .error e => throw (.report e)
  | .recent =>
    let events ← Run.stored reportName "Failed to list recent events" (Server.recent config.recentLimit)
    return .list (events.map Event.Summary.toTree)

/-- Checks the standard catalog, resolves the entries, connects, and prints. -/
def report (vars : Variables) : Run String := do
  let catalog := Catalog.standard
  Run.required reportName "Invalid catalog" (return catalog.validate.mapError .catalog)
  let config ← Run.required reportName "Failed to initialize report config" do
    return (← ReportConfig.load vars).mapError .config
  let dimensions ← Run.required reportName "Failed to resolve REPORT_DIMENSIONS"
    (return (catalog.resolve .dimension config.dimensions).mapError .catalog)
  let measures ← Run.required reportName "Failed to resolve REPORT_MEASURES"
    (return (catalog.resolve .measure config.measures).mapError .catalog)
  let q := Query.ofSettings [.dimensions dimensions, .measures measures, .limit config.limit]
  Run.connect reportName vars
  return (← reportDocument config q).pretty ++ "\n"

end Clickstream.Program
