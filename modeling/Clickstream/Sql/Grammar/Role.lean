import Clickstream.Sql.Grammar.Definition

/-! The grammar of roles and of what they are granted. -/
namespace Clickstream.Sql.Parser

/-- Properties that a role has or has not. -/
def roleFlags : List (List (List String)) :=
  ["LOGIN", "INHERIT", "BYPASSRLS", "CREATEDB", "CREATEROLE", "SUPERUSER", "REPLICATION"].map
    fun key => [[key], ["NO" ++ key]]

/-- Properties of a role that have values. -/
def roleValues : List (Parser Bool) :=
  let valued? (keys : List String) (inner : Parser Unit) : Parser Bool := do
    if ← keywords? keys then
      inner
      return true
    else return false
  [valued? ["PASSWORD"] do unless ← keyword? "NULL" do skip value,
   valued? ["CONNECTION", "LIMIT"] numberOrPlaceholder,
   valued? ["VALID", "UNTIL"] (skip value)]

/-- Roles that a new role belongs to, or that belong to it. -/
def roleMembers : List (Parser Bool) :=
  [["IN", "ROLE"], ["IN", "GROUP"], ["ROLE"], ["USER"], ["ADMIN"]].map fun keys => do
    if ← keywords? keys then
      names
      return true
    else return false

/-- New roles after `CREATE ROLE`. -/
def createRole : Parser Unit := do
  ifNotExists?
  paths
  skip (keyword? "WITH")
  eachOnce (roleFlags.map phrase? ++ roleValues ++ roleMembers)

/-- A setting of a role after `SET`. -/
def roleSetting (lower : Level) : Parser Unit := do
  skip path
  unless ← keywords? ["FROM", "CURRENT"] do
    unless ← mark? "=" do keyword "TO"
    unless ← keyword? "DEFAULT" do skip (lower.expr 0)

/-- Changes of a role after `ALTER ROLE`. -/
def alterRole (lower : Level) : Parser Unit := do
  skip name
  if ← keywords? ["IN", "DATABASE"] then path?
  if ← keyword? "RENAME" then
    keyword "TO"
    skip name
  else if ← keyword? "SET" then roleSetting lower
  else if ← keyword? "RESET" then
    unless ← keyword? "ALL" do skip path
  else
    let options := roleFlags.map phrase? ++ roleValues
    skip (keyword? "WITH")
    if (← passOne? options).isNone then fail
    exhaust do return (← passOne? options).isSome

/-- What may be done, with the columns that it may be done to. -/
def privilege : Parser Unit := do
  match ← oneOf? ["INSERT", "REFERENCES", "SELECT", "UPDATE"] with
  | some _ => skip columns?
  | none => skip <| oneOf ["CONNECT", "CREATE", "DELETE", "EXECUTE", "TEMPORARY", "TRIGGER",
      "TRUNCATE", "USAGE"]

/-- Privileges and the objects that they are about. -/
def privileges : Parser Unit := do
  if ← keyword? "ALL" then skip (keyword? "PRIVILEGES") else skip (list privilege)
  keyword "ON"
  unless ← phrase? [["ALL", "TABLES", "IN", "SCHEMA"], ["ALL", "SEQUENCES", "IN", "SCHEMA"]] do
    skip (oneOf? ["SEQUENCE", "SCHEMA", "TABLE"])
  paths

/-- A grant after its keyword. -/
def grant : Parser Unit := do
  privileges
  keyword "TO"
  names
  skip (keywords? ["WITH", "GRANT", "OPTION"])
  after? ["GRANTED", "BY"] name

/-- The withdrawal of a grant after its keyword. -/
def revoke : Parser Unit := do
  privileges
  keyword "FROM"
  names
  after? ["GRANTED", "BY"] name
  skip (oneOf? ["CASCADE", "RESTRICT"])

end Clickstream.Sql.Parser
