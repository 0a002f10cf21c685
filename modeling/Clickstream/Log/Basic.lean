/-! Log records: what programs and the library say about their work. -/
namespace Clickstream.Log

/-- How much a record matters, from most to least. -/
inductive Level where
  | error
  | warn
  | info
  | debug
  | trace
  deriving DecidableEq

def Level.name : Level → String
  | .error => "ERROR"
  | .warn => "WARN"
  | .info => "INFO"
  | .debug => "DEBUG"
  | .trace => "TRACE"

/-- The rank of a level; records of greater rank matter less. -/
def Level.rank : Level → Nat
  | .error => 1
  | .warn => 2
  | .info => 3
  | .debug => 4
  | .trace => 5

/-- One record, with the name of the part that wrote it. -/
structure Record where
  level : Level
  target : String
  message : String
  deriving DecidableEq

/-- A state of which a log is kept. -/
structure Logged (σ : Type) where
  state : σ
  log : List Record := []

/-- Actions on a state of type `σ` that write to a log. -/
abbrev Logging (σ : Type) := StateM (Logged σ)

namespace Logging
variable {σ α : Type}

def write (level : Level) (target message : String) : Logging σ Unit :=
  modify fun s => { s with log := s.log ++ [⟨level, target, message⟩] }

/-- An action on the state that writes nothing. -/
def silent (action : StateM σ α) : Logging σ α := fun s =>
  let (a, state) := action.run s.state
  (a, { s with state })

end Logging
end Clickstream.Log
