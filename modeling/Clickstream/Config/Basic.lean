import Clickstream.Number.Numeral
import Clickstream.Report.Basic
import Clickstream.Text.Quoted
import Clickstream.Time.Reader

/-! Configuration from named variables. Every setting has a default; a variable that is set must
read as its setting, even where its text is empty. -/
namespace Clickstream
open Log

/-- The variables that are set, with their texts. -/
abbrev Variables := List (String × String)

/-- A variable's text does not read as its setting. -/
structure ConfigError where
  variableName : String
  deriving DecidableEq

namespace ConfigError

def message (e : ConfigError) : String :=
  "Failed to parse environment variable " ++ e.variableName

/-- The error as programs print it when they fail. -/
def dump (e : ConfigError) : String :=
  "ParseError \x7b name: " ++ Text.quoted e.variableName ++ " \x7d"

end ConfigError

namespace Config

/-- The setting read from a variable, or its default where the variable is not set. -/
def setting {α : Type} (vars : Variables) (name : String) (default : α)
    (read : String → Option α) : Except ConfigError α :=
  match vars.lookup name with
  | none => .ok default
  | some text =>
    match read text with
    | some a => .ok a
    | none => .error ⟨name⟩

/-- A setting that is its variable's text. -/
def textSetting (vars : Variables) (name default : String) : Except ConfigError String :=
  setting vars name default some

def timeSetting (vars : Variables) (name : String) (default : Instant) :
    Except ConfigError Instant :=
  setting vars name default fun text => (Instant.read text).toOption

/-- Notes in the log what was loaded, if anything was. -/
def noted {σ α : Type} (describe : α → String) (loaded : Except ConfigError α) :
    Logging σ (Except ConfigError α) := do
  if let .ok config := loaded then
    Logging.write .debug "pixel_analytics::config" (describe config)
  return loaded

end Config

/-- Where the database is and how to log in to it. -/
structure DatabaseConfig where
  host : String
  port : Nat
  user : String
  password : String
  database : String
  deriving DecidableEq

namespace DatabaseConfig

def read (vars : Variables) : Except ConfigError DatabaseConfig := do
  return {
    host := ← Config.textSetting vars "DB_HOST" "localhost"
    port := ← Config.setting vars "DB_PORT" 5432 (whole? 65535)
    user := ← Config.textSetting vars "DB_USER" "postgres"
    password := ← Config.textSetting vars "DB_PASSWORD" "postgres"
    database := ← Config.textSetting vars "DB_NAME" "pixel" }

/-- The password is left out. -/
def describe (c : DatabaseConfig) : String :=
  "PostgresConfig loaded: host=" ++ c.host ++ ", port=" ++ toString c.port ++ ", user=" ++ c.user ++
    ", dbname=" ++ c.database

def load {σ : Type} (vars : Variables) : Logging σ (Except ConfigError DatabaseConfig) :=
  Config.noted describe (read vars)

/-- The address of the database in one text. Nothing in a setting is quoted. -/
def connectionString (c : DatabaseConfig) : String :=
  "host=" ++ c.host ++ " port=" ++ toString c.port ++ " user=" ++ c.user ++ " password=" ++
    c.password ++ " dbname=" ++ c.database ++ " sslmode=disable"

end DatabaseConfig

/-- What a report run prints. -/
inductive OutputShape where
  | report (shape : ReportShape)
  /-- The newest stored events. -/
  | recent
  deriving DecidableEq

namespace OutputShape

def read? : String → Option OutputShape
  | "table" => some (.report .table)
  | "line_chart" => some (.report .lineChart)
  | "recent" => some .recent
  | _ => none

/-- What is said of a text that is no shape. -/
def refusal (text : String) : String := "Unknown report shape: " ++ text

def label : OutputShape → String
  | .report .table => "Table"
  | .report .lineChart => "LineChart"
  | .recent => "Recent"

end OutputShape

/-- Which report is run, by comma-separated keys of catalog entries. -/
structure ReportConfig where
  dimensions : String
  measures : String
  /-- Greatest number of rows; zero for all. -/
  limit : Nat
  shape : OutputShape
  deriving DecidableEq

namespace ReportConfig

def read (vars : Variables) : Except ConfigError ReportConfig := do
  return {
    dimensions := ← Config.textSetting vars "REPORT_DIMENSIONS" ""
    measures := ← Config.textSetting vars "REPORT_MEASURES" ""
    limit := ← Config.setting vars "REPORT_LIMIT" 0 (whole? 4294967295)
    shape := ← Config.setting vars "REPORT_SHAPE" (.report .table) OutputShape.read? }

def describe (c : ReportConfig) : String :=
  "ReportConfig loaded: dimensions=" ++ c.dimensions ++ ", measures=" ++ c.measures ++
    ", limit=" ++ toString c.limit ++ ", shape=" ++ c.shape.label

def load {σ : Type} (vars : Variables) : Logging σ (Except ConfigError ReportConfig) :=
  Config.noted describe (read vars)

/-- How many of the newest events are listed: ten where no limit is set. -/
def recentLimit (c : ReportConfig) : Nat := if c.limit = 0 then 10 else c.limit

end ReportConfig
end Clickstream
