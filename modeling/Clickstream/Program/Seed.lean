import Clickstream.Program.Basic

/-! The program that generates traffic and loads it into the events relation. -/
namespace Clickstream.Program

open Database

def seedName : String := "seed"

/-- Plans the traffic, connects, creates the events relation where it is missing, and loads what
the source gives. -/
def seed (vars : Variables) (source : RandomSource) : Run String := do
  let config ← Run.required seedName "Failed to initialize seed config" do
    return (← TrafficConfig.load vars).mapError .config
  let plan ← Run.required seedName "Invalid seed config"
    (return (Plan.ofConfig config).mapError .plan)
  Run.connect seedName vars
  Run.stored seedName "Failed to create the events relation" Server.ensureSchema
  let events ← Run.required seedName "Failed to generate events"
    (return (plan.generate source).mapError .generation)
  Run.note .info seedName ("Generated " ++ toString events.length ++ " events")
  let copied ← Run.required seedName "Failed to load events" do
    return (← Server.copy events).mapError .store
  Run.note .info seedName ("Loaded " ++ toString copied ++ " events")
  return ""

end Clickstream.Program
