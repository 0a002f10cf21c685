import Clickstream.Sql.Grammar.Creation

/-! The grammar of changes to objects, and of their removal. -/
namespace Clickstream.Sql.Parser

/-- A constraint, partitions or a column that is added to a table. -/
def addition (lower : Level) : Parser Unit := do
  unless ← tableConstraint? lower do
    ifNotExists?
    if ← partition? lower then exhaust (partition? lower)
    else
      skip (keyword? "COLUMN")
      ifNotExists?
      columnDefinition lower

/-- A new name of a constraint, a table or a column. -/
def rename : Parser Unit := do
  if ← keyword? "TO" then skip path
  else
    unless ← keyword? "CONSTRAINT" do skip (keyword? "COLUMN")
    skip name
    keyword "TO"
    skip name

/-- Rules, triggers or the security of rows, switched on or off. Switched on, the first two may
hold always or for replicas. -/
def switching (on : Bool) : Parser Unit := do
  unless ← keywords? ["ROW", "LEVEL", "SECURITY"] do
    let bound := [["ALWAYS", "RULE"], ["ALWAYS", "TRIGGER"], ["REPLICA", "RULE"],
      ["REPLICA", "TRIGGER"]]
    phrase ((if on then bound else []) ++ [["RULE"], ["TRIGGER"]])
    skip name

/-- Partitions, a constraint or a column that is taken from a table. -/
def subtraction (lower : Level) : Parser Unit := do
  if ← phrase? [["IF", "EXISTS", "PARTITION"], ["PARTITION"]] then
    skip (parens (list (lower.expr 0)))
  else
    unless ← keyword? "CONSTRAINT" do
      skip (keywords? ["PRIMARY", "KEY"])
      skip (keyword? "PROJECTION")
      skip (keyword? "COLUMN")
    ifExists?
    skip name
    skip (keyword? "CASCADE")

/-- A column's new definition. -/
def redefinition (lower : Level) (renamed : Bool) : Parser Unit := do
  skip (keyword? "COLUMN")
  skip name
  if renamed then skip name
  skip typeName
  exhaust (columnOption? lower)

/-- A change of one property of a column. -/
def columnChange (lower : Level) : Parser Unit := do
  skip (keyword? "COLUMN")
  skip name
  if ← phrase? [["SET", "NOT", "NULL"], ["DROP", "NOT", "NULL"]] then return ()
  if ← keywords? ["SET", "DEFAULT"] then skip (lower.expr 0)
  else if ← keywords? ["DROP", "DEFAULT"] then return ()
  else if ← phrase? [["SET", "DATA", "TYPE"], ["TYPE"]] then
    skip typeName
    after? ["USING"] (lower.expr 0)
  else
    keywords ["ADD", "GENERATED"]
    skip (phrase? [["ALWAYS"], ["BY", "DEFAULT"]])
    keywords ["AS", "IDENTITY"]
    if ← markAhead "(" then skip (parens sequenceOptions)

/-- One change of a table. -/
def tableChange (lower : Level) : Parser Unit := do
  let first? ← oneOf? ["ADD", "RENAME", "DISABLE", "ENABLE"]
  match first? with
  | some "ADD" => addition lower
  | some "RENAME" => rename
  | some key => switching (key = "ENABLE")
  | none =>
    skip (keywords? ["CLEAR", "PROJECTION"])
    skip (keywords? ["MATERIALIZE", "PROJECTION"])
    match ← oneOf ["DROP", "PARTITION", "CHANGE", "MODIFY", "ALTER", "SWAP", "OWNER", "SET"] with
    | "DROP" => subtraction lower
    | "PARTITION" =>
      skip (parens (list (lower.expr 0)))
      keywords ["RENAME", "TO", "PARTITION"]
      skip (parens (list (lower.expr 0)))
    | "CHANGE" => redefinition lower true
    | "MODIFY" => redefinition lower false
    | "ALTER" => columnChange lower
    | "SWAP" =>
      keyword "WITH"
      skip path
    | "OWNER" =>
      keyword "TO"
      skip name
    | _ =>
      keyword "TBLPROPERTIES"
      settings lower

/-- A change of an object after `ALTER`. -/
def alter (lower : Level) : Parser Unit := do
  match ← oneOf ["VIEW", "TABLE", "INDEX", "ROLE"] with
  | "VIEW" =>
    skip path
    skip columns?
    after? ["WITH"] (settings lower)
    keyword "AS"
    skip lower.query
  | "TABLE" =>
    ifExists?
    skip (keyword? "ONLY")
    skip path
    onCluster?
    skip (list (tableChange lower))
    if ← phrase? [["LOCATION"], ["SET", "LOCATION"]] then skip name
  | "INDEX" =>
    skip path
    keywords ["RENAME", "TO"]
    skip path
  | _ => alterRole lower

/-- The removal of objects of a kind. Roles are removed without those that depend on them. -/
def dropObjects (isRole : Bool) : Parser Unit := do
  ifExists?
  paths
  let cascade ← keyword? "CASCADE"
  let restrict ← keyword? "RESTRICT"
  let purge ← keyword? "PURGE"
  if (cascade && restrict) || (isRole && (cascade || restrict || purge)) then fail

/-- A removal of objects after its keyword. -/
def drop (lower : Level) : Parser Unit := do
  match ← oneOf ["TABLE", "VIEW", "INDEX", "ROLE", "SCHEMA", "SEQUENCE", "STAGE", "TYPE",
      "FUNCTION", "PROCEDURE", "SECRET", "TRIGGER"] with
  | "FUNCTION" | "PROCEDURE" =>
    ifExists?
    skip (list (functionSignature lower))
    skip (oneOf? ["CASCADE", "RESTRICT"])
  | "SECRET" =>
    ifExists?
    skip name
    if ← keyword? "FROM" then skip (attempt next)
  | "TRIGGER" =>
    ifExists?
    skip path
    keyword "ON"
    skip path
    skip (oneOf? ["CASCADE", "RESTRICT"])
  | key => dropObjects (key = "ROLE")

end Clickstream.Sql.Parser
