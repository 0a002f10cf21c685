import Clickstream.Sql.Grammar.Modification

/-! The grammar of what definitions of objects are made of: settings, numbering, columns and the
constraints on them, files, and the arguments of functions. Nothing is kept of them. -/
namespace Clickstream.Sql.Parser

def ifExists? : Parser Unit := skip (keywords? ["IF", "EXISTS"])

def ifNotExists? : Parser Unit := skip (keywords? ["IF", "NOT", "EXISTS"])

/-- Names with their values in parentheses. -/
def settings (lower : Level) : Parser Unit := skip <| parens <| list do
  skip name
  mark "="
  skip (lower.expr 0)

/-- A number, or a placeholder for one. -/
def numberOrPlaceholder : Parser Unit := do
  match ← peek? with
  | some (.word ..) | some (.string ..) => fail
  | _ => skip value

/-- A number, or a placeholder for one, which may have a sign. -/
def signedNumber : Parser Unit := do
  unless ← mark? "+" do skip (mark? "-")
  numberOrPlaceholder

/-- How a sequence counts; what is said of it stands in a fixed order. -/
def sequenceOptions : Parser Unit := do
  let bound? (key : String) : Parser Unit := do
    if ← keyword? key then signedNumber else skip (keywords? ["NO", key])
  if ← keyword? "INCREMENT" then
    skip (keyword? "BY")
    signedNumber
  bound? "MINVALUE"
  bound? "MAXVALUE"
  if ← keyword? "START" then
    skip (keyword? "WITH")
    signedNumber
  after? ["CACHE"] signedNumber
  skip (phrase? [["NO", "CYCLE"], ["CYCLE"]])

/-- When a constraint is checked, and whether it is enforced. -/
def characteristics : Parser Unit := eachOnce
  [phrase? [["NOT", "DEFERRABLE"], ["DEFERRABLE"]],
   phrase? [["INITIALLY", "DEFERRED"], ["INITIALLY", "IMMEDIATE"]],
   phrase? [["ENFORCED"], ["NOT", "ENFORCED"]]]

/-- What is done to a row when the row it refers to goes or changes. -/
def referentialActions : Parser Unit :=
  let action? (event : String) : Parser Bool := do
    if ← keywords? ["ON", event] then
      phrase [["RESTRICT"], ["CASCADE"], ["SET", "NULL"], ["NO", "ACTION"], ["SET", "DEFAULT"]]
      return true
    else return false
  eachOnce [action? "DELETE", action? "UPDATE"]

/-- A column that is computed, or numbered by a sequence, after `GENERATED`. A column is computed
when its row is stored. -/
def generated? (lower : Level) : Parser Bool := do
  if ← phrase? [["ALWAYS", "AS", "IDENTITY"], ["BY", "DEFAULT", "AS", "IDENTITY"]] then
    if ← markAhead "(" then skip (parens sequenceOptions)
    return true
  if !(← keywords? ["ALWAYS", "AS"]) then return false
  if !(← markAhead "(") then return false
  skip (parens (lower.expr 0))
  keyword "STORED"
  return true

/-- A property of a column or a constraint on it, if one follows. Some words that begin properties
of no use here are passed even though nothing comes of them. -/
def columnOption? (lower : Level) : Parser Bool := do
  if ← keywords? ["CHARACTER", "SET"] then
    skip path
    return true
  if ← keywords? ["NOT", "NULL"] then return true
  if ← keyword? "COMMENT" then
    skip singleString
    return true
  if ← keyword? "NULL" then return true
  if ← keyword? "DEFAULT" then
    skip (lower.expr 0)
    return true
  if ← phrase? [["PRIMARY", "KEY"], ["UNIQUE"]] then
    characteristics
    return true
  if ← keyword? "REFERENCES" then
    skip path
    skip columns?
    referentialActions
    characteristics
    return true
  if ← keyword? "CHECK" then
    skip (parens (lower.expr 0))
    return true
  skip (keyword? "AUTO_INCREMENT")
  skip (keyword? "AUTOINCREMENT")
  skip (keywords? ["ON", "UPDATE"])
  if ← keyword? "GENERATED" then generated? lower
  else
    skip (keyword? "AS")
    skip (keyword? "IDENTITY")
    return false

/-- A column: its name, its type, its collation, and what else is said of it. -/
def columnDefinition (lower : Level) : Parser Unit := do
  skip name
  skip typeName
  after? ["COLLATE"] path
  exhaust do
    if ← keyword? "CONSTRAINT" then
      skip name
      unless ← columnOption? lower do fail
      return true
    else columnOption? lower

/-- The structure of an index, if it is said. -/
def indexMethod? : Parser Bool := do
  if ← keyword? "USING" then
    skip (oneOf ["BTREE", "HASH"])
    return true
  else return false

/-- The columns of a key, with the name of its index before them and its properties after them. -/
def keyColumns : Parser Unit := do
  skip (attempt name)
  skip indexMethod?
  skip (parens (list name))
  exhaust do
    if ← keyword? "COMMENT" then
      skip textLiteral
      return true
    else indexMethod?
  characteristics

/-- A constraint on a table, if one follows. -/
def tableConstraint? (lower : Level) : Parser Bool := do
  let named ← keyword? "CONSTRAINT"
  if named then skip name
  match ← oneOf? ["UNIQUE", "PRIMARY", "FOREIGN", "CHECK"] with
  | some "UNIQUE" =>
    if (← keywordAhead "KEY") || (← keywordAhead "INDEX") then fail
    keyColumns
    return true
  | some "PRIMARY" =>
    keyword "KEY"
    keyColumns
    return true
  | some "FOREIGN" =>
    keyword "KEY"
    skip (parens (list name))
    keyword "REFERENCES"
    skip path
    skip (parens (list name))
    referentialActions
    characteristics
    return true
  | some _ =>
    skip (parens (lower.expr 0))
    return true
  | none => if named then fail else return false

/-- The columns of a table and the constraints on it, if they follow. -/
def tableColumns? (lower : Level) : Parser Unit := do
  if ← markAhead "(" then
    skip <| parensList do
      unless ← tableConstraint? lower do
        match ← peek? with
        | some (.word ..) => columnDefinition lower
        | _ => fail

/-- How the rows of a file are told apart, after `ROW`. -/
def rowFormat : Parser Unit := do
  keyword "FORMAT"
  if ← keyword? "SERDE" then skip textLiteral
  else
    skip (keyword? "DELIMITED")
    exhaust do
      if ← keywords? ["FIELDS", "TERMINATED", "BY"] then
        skip name
        after? ["ESCAPED", "BY"] name
        return true
      if ← phrase? [["COLLECTION", "ITEMS", "TERMINATED", "BY"],
          ["MAP", "KEYS", "TERMINATED", "BY"], ["LINES", "TERMINATED", "BY"],
          ["NULL", "DEFINED", "AS"]] then
        skip name
        return true
      return false
    skip (oneOf? ["FIELDS", "COLLECTION", "MAP", "LINES", "NULL"])

/-- What is said of the files that hold a table. -/
def storage (lower : Level) : Parser Unit := exhaust do
  if ← keyword? "ROW" then
    rowFormat
    return true
  if ← keyword? "STORED" then
    keyword "AS"
    if ← keyword? "INPUTFORMAT" then
      skip (lower.expr 0)
      keyword "OUTPUTFORMAT"
      skip (lower.expr 0)
    else fileFormat
    return true
  if ← keyword? "LOCATION" then
    skip textLiteral
    return true
  if ← keywords? ["WITH", "SERDEPROPERTIES"] then
    settings lower
    return true
  return false

/-- An argument in a function's signature. A type of no known name is the argument's name. -/
def functionArgument (lower : Level) : Parser Unit := do
  skip (oneOf? ["IN", "OUT", "INOUT"])
  if (← typeName) = .custom then skip typeName
  if ← keyword? "DEFAULT" then skip (lower.expr 0)
  else if ← mark? "=" then skip (lower.expr 0)

/-- A function's name, with its arguments if they are given. -/
def functionSignature (lower : Level) : Parser Unit := do
  skip path
  if ← markAhead "(" then skip (parensList (functionArgument lower))

end Clickstream.Sql.Parser
