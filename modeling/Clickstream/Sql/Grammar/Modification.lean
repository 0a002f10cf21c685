import Clickstream.Sql.Grammar.Select

/-! The grammar of statements that add, change or remove rows. Nothing is kept of them. -/
namespace Clickstream.Sql.Parser

/-- How rows that violate a constraint are treated, if it is said. -/
def conflict? : Parser Unit := do
  let said ← attempt do
    keyword "OR"
    oneOf ["REPLACE", "ROLLBACK", "ABORT", "FAIL", "IGNORE"]
  if said.isNone then let _ ← keyword? "REPLACE"

/-- A column, or columns in parentheses, with their new value. -/
def assignment (lower : Level) : Parser Unit := do
  if ← markAhead "(" then
    let _ ← parens (list path)
  else
    let _ ← path
  mark "="
  let _ ← lower.expr 0

/-- The condition on the rows, if there is one. -/
def condition? (lower : Level) : Parser Unit := do
  if ← keyword? "WHERE" then
    let _ ← lower.expr 0

/-- What is returned of the rows, if anything. -/
def returning? (lower : Level) : Parser Unit := do
  if ← keyword? "RETURNING" then
    let _ ← list (selectItem lower)

/-- What is done with rows that are there already. -/
def onConflict (lower : Level) : Parser Unit := do
  if ← keywords? ["ON", "CONSTRAINT"] then
    let _ ← path
  else if ← markAhead "(" then
    let _ ← parens (list name)
  keyword "DO"
  unless ← keyword? "NOTHING" do
    keywords ["UPDATE", "SET"]
    let _ ← list (assignment lower)
    condition? lower

/-- The partitions of a table in parentheses, if they follow. -/
def partition? (lower : Level) : Parser Bool := do
  if ← keyword? "PARTITION" then
    let _ ← parens (list (lower.expr 0))
    return true
  else return false

/-- The format of a file: any word that names one. -/
def fileFormat : Parser Unit := do
  let _ ← oneOf ["AVRO", "JSONFILE", "ORC", "PARQUET", "RCFILE", "SEQUENCEFILE", "TEXTFILE"]

/-- An insertion of a query's rows into a table, after the table's name. What begins with `SELECT`
in parentheses is a query, not a list of columns. -/
def insertedRows (lower : Level) : Parser Unit := do
  if ← keyword? "AS" then
    let _ ← name
  unless ← keywords? ["DEFAULT", "VALUES"] do
    if !(← markAhead "(") || !(← peekAt? 1).any (Token.isKeyword "SELECT") then
      let _ ← columns?
      let _ ← partition? lower
    let _ ← lower.query
  if ← keyword? "ON" then
    if ← keyword? "CONFLICT" then onConflict lower
    else
      keywords ["DUPLICATE", "KEY", "UPDATE"]
      let _ ← list (assignment lower)
  returning? lower

/-- An insertion after its keyword: into a table, or into files of a directory. -/
def insert (lower : Level) : Parser Unit := do
  conflict?
  let _ ← keyword? "OVERWRITE"
  let _ ← keyword? "INTO"
  let _ ← keyword? "LOCAL"
  if ← keyword? "DIRECTORY" then
    let _ ← textLiteral
    if ← keywords? ["STORED", "AS"] then fileFormat
    let _ ← lower.query
  else
    let _ ← keyword? "TABLE"
    let _ ← path
    insertedRows lower

/-- An update after its keyword. -/
def update (lower : Level) : Parser Unit := do
  let _ ← source lower
  keyword "SET"
  let _ ← list (assignment lower)
  if ← keyword? "FROM" then
    let _ ← source lower
  condition? lower
  returning? lower

/-- A deletion after its keyword. -/
def delete (lower : Level) : Parser Unit := do
  unless ← keyword? "FROM" do
    let _ ← list path
    keyword "FROM"
  let _ ← list (source lower)
  if ← keyword? "USING" then
    let _ ← list (source lower)
  condition? lower
  returning? lower
  if ← keywords? ["ORDER", "BY"] then
    let _ ← list (orderItem lower)
  if ← keyword? "LIMIT" then
    unless ← keyword? "ALL" do
      let _ ← lower.expr 0

end Clickstream.Sql.Parser
