import Clickstream.Sql.Grammar.Creation
import Clickstream.Sql.Grammar.Transaction
import Clickstream.Text.Uppercase

/-! The grammar of commands: statements that define nothing and carry no rows. Of each only what
follows its first word is read here. -/
namespace Clickstream.Sql.Parser

def kill : Parser Unit := do
  skip (oneOf? ["CONNECTION", "QUERY"])
  skip whole

/-- What is counted of a table. -/
def analyze (lower : Level) : Parser Unit := do
  keyword "TABLE"
  skip path
  exhaust do
    match ← oneOf? ["PARTITION", "FOR", "CACHE", "NOSCAN", "COMPUTE"] with
    | some "PARTITION" => skip (parens (list (lower.expr 0)))
    | some "FOR" =>
      keyword "COLUMNS"
      skip (attempt names)
    | some "CACHE" => keyword "METADATA"
    | some "COMPUTE" => keyword "STATISTICS"
    | some _ => pure ()
    | none => return false
    return true

def truncate (lower : Level) : Parser Unit := do
  skip (keyword? "TABLE")
  skip (keyword? "ONLY")
  paths
  skip (partition? lower)
  skip (phrase? [["RESTART", "IDENTITY"], ["CONTINUE", "IDENTITY"]])
  skip (oneOf? ["CASCADE", "RESTRICT"])
  onCluster?

def attach (lower : Level) : Parser Unit := do
  skip (keyword? "DATABASE")
  skip (lower.expr 0)
  keyword "AS"
  skip name

/-- The repair of a table's partitions. -/
def repair : Parser Unit := do
  skip (keyword? "REPAIR")
  keyword "TABLE"
  skip path
  skip (phrase? [["ADD", "PARTITIONS"], ["DROP", "PARTITIONS"], ["SYNC", "PARTITIONS"],
    ["PARTITIONS"]])

/-- A table that is kept at hand, with the query that fills it. A query must follow unless the
text ends. -/
def cache (lower : Level) : Parser Unit := do
  unless ← keyword? "TABLE" do
    skip path
    keyword "TABLE"
  skip path
  after? ["OPTIONS"] (settings lower)
  unless (← get).isEmpty do
    unless ← keyword? "AS" do
      match ← peek? with
      | some (.word ..) => pure ()
      | _ => fail
    skip lower.query

def uncache : Parser Unit := do
  keyword "TABLE"
  ifExists?
  skip path

/-- A query whose rows are fetched one by one. -/
def declare (lower : Level) : Parser Unit := do
  skip name
  skip (keyword? "BINARY")
  skip (oneOf? ["INSENSITIVE", "ASENSITIVE"])
  skip (phrase? [["SCROLL"], ["NO", "SCROLL"]])
  keyword "CURSOR"
  skip (phrase? [["WITH", "HOLD"], ["WITHOUT", "HOLD"]])
  keyword "FOR"
  skip lower.query

def fetchRows : Parser Unit := do
  match ← oneOf? ["NEXT", "PRIOR", "FIRST", "LAST", "ALL", "FORWARD", "BACKWARD", "ABSOLUTE",
      "RELATIVE"] with
  | some key =>
    if ["FORWARD", "BACKWARD"].contains key then
      unless ← keyword? "ALL" do numberOrPlaceholder
    else if ["ABSOLUTE", "RELATIVE"].contains key then numberOrPlaceholder
  | none => numberOrPlaceholder
  skip (oneOf ["FROM", "IN"])
  skip name
  after? ["INTO"] path

def close : Parser Unit := do unless ← keyword? "ALL" do skip name

def callProcedure (lower : Level) : Parser Unit := do
  let procedure ← path
  if ← markAhead "(" then skip (call lower (operand lower) procedure)

/-- A variable that gets values after `SET`. A role, the time zone and the modes of transactions are
set without an equals sign. -/
def assign (lower : Level) : Parser Unit := do
  let scope? ← oneOf? ["SESSION", "LOCAL", "HIVEVAR"]
  let role? ← do
    if scope? = some "HIVEVAR" then
      mark ":"
      pure none
    else attempt do
      keyword "ROLE"
      unless ← keyword? "NONE" do skip name
  if role?.isSome then return ()
  let target ← do
    if ← keywords? ["TIME", "ZONE"] then pure [⟨"timezone", none⟩] else path
  let assigned ← do if ← mark? "=" then pure true else keyword? "TO"
  let word := match target with
    | [⟨text, none⟩] => text
    | _ => ""
  if assigned then
    skip <| list do if ← queryAhead then skip lower.query else skip (lower.expr 0)
  else if Text.lowerAscii word = "timezone" then skip (lower.expr 0)
  else if word = "CHARACTERISTICS" then
    keywords ["AS", "TRANSACTION"]
    transactionModes
  else if word = "TRANSACTION" ∧ scope?.isNone then
    if ← keyword? "SNAPSHOT" then skip value else transactionModes
  else fail

/-- Which of the things that are shown are wanted, if it is said. -/
def shownFilter (lower : Level) : Parser Unit := do
  if ← phrase? [["LIKE"], ["ILIKE"]] then skip textLiteral else after? ["WHERE"] (lower.expr 0)

/-- Something to show after `SHOW`. Where it is a variable, all that follows is passed up to an
equals sign. -/
def present (lower : Level) : Parser Unit := do
  let extended ← keyword? "EXTENDED"
  let full ← keyword? "FULL"
  skip (keyword? "SESSION")
  skip (keyword? "GLOBAL")
  match ← oneOf? ["COLUMNS", "FIELDS", "TABLES", "FUNCTIONS"] with
  | some "TABLES" =>
    if (← oneOf? ["FROM", "IN"]).isSome then skip name
    shownFilter lower
  | some "FUNCTIONS" => shownFilter lower
  | some _ =>
    skip (oneOf ["FROM", "IN"])
    skip path
    if (← oneOf? ["FROM", "IN"]).isSome then skip name
    shownFilter lower
  | none =>
    if extended || full then fail
    if ← keyword? "CREATE" then
      skip (oneOf ["TABLE", "TRIGGER", "FUNCTION", "PROCEDURE", "EVENT", "VIEW"])
      skip path
    else if ← keyword? "COLLATION" then shownFilter lower
    else modify (·.dropWhile fun token => !token.isMark "=")

/-- A condition that must hold, and what to say where it does not. -/
def assert (lower : Level) : Parser Unit := do
  skip (lower.expr 0)
  after? ["AS"] (lower.expr 0)

def deallocate : Parser Unit := do
  skip (keyword? "PREPARE")
  skip name

def execute (lower : Level) : Parser Unit := do
  skip name
  if ← markAhead "(" then skip (parens (list (lower.expr 0)))

/-- A statement that is kept under a name, with the types of its parameters. -/
def prepare {α : Type} (one : Parser α) : Parser Unit := do
  skip name
  if ← markAhead "(" then skip (parens (list typeName))
  keyword "AS"
  skip one

def pragma : Parser Unit := do
  let setting : Parser Unit := do
    match ← peek? with
    | some (.string .single _) => skip next
    | some (.word _ _ true) => skip next
    | _ => numberOrPlaceholder
  skip path
  if ← markAhead "(" then parens setting
  else if ← mark? "=" then setting

/-- A remark on a column or a table. -/
def comment : Parser Unit := do
  ifExists?
  keyword "ON"
  skip (oneOf ["COLUMN", "TABLE"])
  skip path
  keyword "IS"
  unless ← keyword? "NULL" do skip textLiteral

end Clickstream.Sql.Parser
