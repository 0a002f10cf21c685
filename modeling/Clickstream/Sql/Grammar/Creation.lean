import Clickstream.Sql.Grammar.Role

/-! The grammar of new objects. What is said of an object stands in a fixed order. -/
namespace Clickstream.Sql.Parser

/-- Statements with semicolons between them; any number of these may stand at each place. A
statement may be followed by `END`, where reading stops. The fuel bounds their number. -/
def statements {α : Type} (one : Parser α) : Nat → Parser (List α)
  | 0 => fail
  | fuel + 1 => do
    exhaust (mark? ";")
    if (← get).isEmpty then return []
    let first ← one
    if (← get).isEmpty || (← keywordAhead "END") then return [first]
    unless ← markAhead ";" do fail
    return first :: (← statements one fuel)

/-- Any word but a string. -/
def word : Parser Unit := do
  match ← next with
  | .word .. => return ()
  | _ => fail

def onCluster? : Parser Unit := after? ["ON", "CLUSTER"] name

/-- How a table is kept, after its columns and files. -/
def tableOptions (lower : Level) : Parser Unit := do
  after? ["WITH"] (settings lower)
  after? ["TBLPROPERTIES"] (settings lower)
  after? ["ENGINE"] do
    mark "="
    word
    if ← markAhead "(" then skip (parens names)
  after? ["AUTO_INCREMENT"] do
    skip (mark? "=")
    if (← whole) ≥ UInt32.size then fail
  after? ["ORDER", "BY"] do
    if ← markAhead "(" then skip (parensList (lower.expr 0)) else skip (lower.expr 0)
  after? ["PARTITION", "BY"] (lower.expr 0)
  after? ["DEFAULT", "CHARSET"] do
    mark "="
    word
  after? ["COLLATE"] do
    mark "="
    word
  skip <| phrase? [["ON", "COMMIT", "DELETE", "ROWS"], ["ON", "COMMIT", "PRESERVE", "ROWS"],
    ["ON", "COMMIT", "DROP"]]
  skip (keyword? "STRICT")
  after? ["COMMENT"] do
    skip (mark? "=")
    skip singleString

/-- A new table after `TABLE`. What it is like, or a copy of, may be missing. -/
def createTable (lower : Level) : Parser Unit := do
  ifNotExists?
  skip path
  onCluster?
  if ← phrase? [["LIKE"], ["ILIKE"]] then path?
  if ← keyword? "CLONE" then path?
  tableColumns? lower
  skip (keywords? ["WITHOUT", "ROWID"])
  after? ["PARTITIONED", "BY"] (parens (list (columnDefinition lower)))
  storage lower
  tableOptions lower
  after? ["AS"] lower.query

/-- A new table of files elsewhere, after `EXTERNAL`. -/
def createExternalTable (lower : Level) : Parser Unit := do
  keyword "TABLE"
  ifNotExists?
  skip path
  tableColumns? lower
  after? ["PARTITIONED", "BY"] (parens (list (columnDefinition lower)))
  storage lower
  after? ["TBLPROPERTIES"] (settings lower)

/-- A new view after `VIEW`. -/
def createView (lower : Level) : Parser Unit := do
  skip path
  if ← markAhead "(" then skip (parensList name)
  after? ["WITH"] (settings lower)
  after? ["CLUSTER"] do
    keyword "BY"
    skip columns?
  keyword "AS"
  skip lower.query

/-- What a function does and how, in any order. -/
def functionBody (lower : Level) : Parser Unit :=
  let found? (keys : List String) (inner : Parser Unit) : Parser Bool := do
    if ← keywords? keys then
      inner
      return true
    else return false
  let text : Parser Unit := do
    match ← peek? with
    | some (.string .dollar _) => skip next
    | _ => skip textLiteral
  let body? : Parser Bool := do
    if ← found? ["AS"] text then return true
    found? ["RETURN"] (skip (lower.expr 0))
  eachOnce
    [body?, found? ["LANGUAGE"] (skip name), phrase? [["IMMUTABLE"], ["STABLE"], ["VOLATILE"]],
     phrase? [["CALLED", "ON", "NULL", "INPUT"], ["RETURNS", "NULL", "ON", "NULL", "INPUT"],
       ["STRICT"]],
     found? ["PARALLEL"] (skip (oneOf ["UNSAFE", "RESTRICTED", "SAFE"]))]

/-- A new function after `FUNCTION`. -/
def createFunction (lower : Level) : Parser Unit := do
  skip path
  skip (parensList (functionArgument lower))
  after? ["RETURNS"] typeName
  functionBody lower

/-- A new trigger after `TRIGGER`. -/
def createTrigger (lower : Level) : Parser Unit := do
  skip path
  phrase [["BEFORE"], ["AFTER"], ["INSTEAD", "OF"]]
  let event : Parser Unit := do
    if (← oneOf ["INSERT", "UPDATE", "DELETE", "TRUNCATE"]) = "UPDATE" then after? ["OF"] names
  event
  exhaust do
    if ← keyword? "OR" then
      event
      return true
    else return false
  keyword "ON"
  skip path
  if ← keyword? "FROM" then path?
  characteristics
  if ← keyword? "REFERENCING" then
    exhaust do
      if ← phrase? [["OLD", "TABLE"], ["NEW", "TABLE"]] then
        skip (keyword? "AS")
        skip path
        return true
      else return false
    skip (oneOf? ["OLD", "NEW"])
  keyword "FOR"
  skip (keyword? "EACH")
  skip (oneOf ["ROW", "STATEMENT"])
  after? ["WHEN"] (lower.expr 0)
  keyword "EXECUTE"
  skip (oneOf ["FUNCTION", "PROCEDURE"])
  functionSignature lower

/-- A new secret after `SECRET`. The name of the place it is kept in may be missing. -/
def createSecret : Parser Unit := do
  ifNotExists?
  unless ← markAhead "(" do
    if ← keyword? "IN" then skip (attempt next)
    else
      skip (attempt next)
      if ← keyword? "IN" then skip (attempt next)
  parens do
    keyword "TYPE"
    skip name
    if ← mark? "," then
      skip <| list do
        skip name
        skip name

/-- A new index after `INDEX`. -/
def createIndex (lower : Level) : Parser Unit := do
  skip (keyword? "CONCURRENTLY")
  if ← keywords? ["IF", "NOT", "EXISTS"] then
    skip path
    keyword "ON"
  else
    unless ← keyword? "ON" do
      skip path
      keyword "ON"
  skip path
  after? ["USING"] name
  skip (parens (list (orderItem lower)))
  after? ["INCLUDE"] (parens names)
  after? ["NULLS"] do
    skip (keyword? "NOT")
    keyword "DISTINCT"
  after? ["WITH"] (parens (list (lower.expr 0)))
  after? ["WHERE"] (lower.expr 0)

/-- A new extension after `EXTENSION`. -/
def createExtension : Parser Unit := do
  ifNotExists?
  skip name
  after? ["WITH"] do
    after? ["SCHEMA"] name
    after? ["VERSION"] name
    skip (keyword? "CASCADE")

/-- A new table of a module, after `VIRTUAL`. -/
def createVirtualTable : Parser Unit := do
  keyword "TABLE"
  ifNotExists?
  skip path
  keyword "USING"
  skip name
  skip columns?

/-- A new schema after `SCHEMA`. -/
def createSchema : Parser Unit := do
  ifNotExists?
  if ← keyword? "AUTHORIZATION" then skip name
  else
    skip path
    after? ["AUTHORIZATION"] name

/-- A new database after `DATABASE`. -/
def createDatabase : Parser Unit := do
  ifNotExists?
  skip path
  exhaust do
    match ← oneOf? ["LOCATION", "MANAGEDLOCATION"] with
    | some _ =>
      skip textLiteral
      return true
    | none => return false

/-- A new sequence after `SEQUENCE`. -/
def createSequence : Parser Unit := do
  ifNotExists?
  skip path
  after? ["AS"] typeName
  sequenceOptions
  after? ["OWNED", "BY"] do
    unless ← keyword? "NONE" do skip path

/-- Items up to a closing parenthesis, with commas between them and one after the last or none. The
fuel bounds their number. -/
def closedList (item : Parser Unit) : Nat → Parser Unit
  | 0 => fail
  | fuel + 1 => do
    item
    let comma ← mark? ","
    unless ← mark? ")" do
      if comma then closedList item fuel else fail

/-- Items in parentheses, if they follow. -/
def closedList? (item : Parser Unit) : Parser Unit := do
  if ← mark? "(" then
    unless ← mark? ")" do closedList item ((← get).length + 1)

/-- A new composite type after `TYPE`. -/
def createType : Parser Unit := do
  skip path
  keyword "AS"
  closedList? do
    skip name
    skip typeName
    after? ["COLLATE"] path

/-- A new procedure after `PROCEDURE`, with the statements that it is made of. -/
def createProcedure {α : Type} (one : Parser α) : Parser Unit := do
  skip path
  closedList? do
    match ← peek? with
    | some (.word ..) =>
      skip name
      skip typeName
    | _ => return ()
  keywords ["AS", "BEGIN"]
  skip (statements one ((← get).length + 1))
  keyword "END"

/-- A new object after `CREATE`. Procedures hold statements. -/
def create {α : Type} (lower : Level) (one : Parser α) : Parser Unit := do
  let replacing ← keywords? ["OR", "REPLACE"]
  skip (keywords? ["OR", "ALTER"])
  skip (keyword? "LOCAL")
  skip (keyword? "GLOBAL")
  skip (keyword? "TRANSIENT")
  skip (oneOf? ["TEMP", "TEMPORARY"])
  match ← oneOf? ["TABLE", "MATERIALIZED", "VIEW", "EXTERNAL", "FUNCTION", "TRIGGER",
      "SECRET"] with
  | some "TABLE" => createTable lower
  | some "MATERIALIZED" =>
    keyword "VIEW"
    createView lower
  | some "VIEW" => createView lower
  | some "EXTERNAL" => createExternalTable lower
  | some "FUNCTION" => createFunction lower
  | some "TRIGGER" => createTrigger lower
  | some _ => createSecret
  | none =>
    if ← keywords? ["CONSTRAINT", "TRIGGER"] then createTrigger lower
    else if replacing then fail
    else
      match ← oneOf ["EXTENSION", "INDEX", "UNIQUE", "VIRTUAL", "SCHEMA", "DATABASE", "ROLE",
          "SEQUENCE", "TYPE", "PROCEDURE"] with
      | "EXTENSION" => createExtension
      | "INDEX" => createIndex lower
      | "UNIQUE" =>
        keyword "INDEX"
        createIndex lower
      | "VIRTUAL" => createVirtualTable
      | "SCHEMA" => createSchema
      | "DATABASE" => createDatabase
      | "ROLE" => createRole
      | "SEQUENCE" => createSequence
      | "TYPE" => createType
      | _ => createProcedure one

end Clickstream.Sql.Parser
