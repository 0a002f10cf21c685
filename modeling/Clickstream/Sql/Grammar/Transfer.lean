import Clickstream.Sql.Grammar.Definition

/-! The grammar of rows that are carried from one place to another. -/
namespace Clickstream.Sql.Parser

/-- A text of one byte. -/
def textByte : Parser Unit := do if (← textLiteral).utf8ByteSize ≠ 1 then fail

/-- An option of a copy in parentheses. -/
def copyOption : Parser Unit := do
  match ← oneOf ["FORMAT", "FREEZE", "DELIMITER", "NULL", "HEADER", "QUOTE", "ESCAPE",
      "FORCE_QUOTE", "FORCE_NOT_NULL", "FORCE_NULL", "ENCODING"] with
  | "FORMAT" => skip name
  | "FREEZE" | "HEADER" => skip (oneOf? ["TRUE", "FALSE"])
  | "DELIMITER" | "QUOTE" | "ESCAPE" => textByte
  | "NULL" | "ENCODING" => skip textLiteral
  | _ => skip (parens (list name))

/-- An option of comma-separated values in the old style. -/
def oldCommaOption : Parser Unit := do
  match ← oneOf ["HEADER", "QUOTE", "ESCAPE", "FORCE"] with
  | "HEADER" => return ()
  | "FORCE" =>
    phrase [["NOT", "NULL"], ["QUOTE"]]
    skip (list name)
  | _ =>
    skip (keyword? "AS")
    textByte

/-- An option of a copy in the old style. -/
def oldCopyOption : Parser Unit := do
  match ← oneOf ["BINARY", "DELIMITER", "NULL", "CSV"] with
  | "BINARY" => return ()
  | "DELIMITER" =>
    skip (keyword? "AS")
    textByte
  | "NULL" =>
    skip (keyword? "AS")
    skip textLiteral
  | _ => skip (many (attempt oldCommaOption))

/-- What follows rows of text: they end with a backslash and a point. A backslash takes the token
after it along. -/
def afterRows : List Token → List Token
  | [] => []
  | .mark "\\" :: .mark "." :: rest => rest
  | .mark "\\" :: _ :: rest => afterRows rest
  | _ :: rest => afterRows rest

/-- A copy after its keyword. Rows that are read from standard input follow it. -/
def copy (lower : Level) : Parser Unit := do
  let queried ← markAhead "("
  if queried then skip (parens lower.query)
  else
    skip path
    skip columns?
  if (← oneOf ["FROM", "TO"]) = "FROM" && queried then fail
  let target? ← oneOf? ["STDIN", "STDOUT", "PROGRAM"]
  if target? = none ∨ target? = some "PROGRAM" then skip textLiteral
  skip (keyword? "WITH")
  if ← markAhead "(" then skip (parens (list copyOption))
  skip (many (attempt oldCopyOption))
  if target? = some "STDIN" then
    mark ";"
    modify afterRows

/-- An unloading of a query's rows after its keyword. -/
def unload (lower : Level) : Parser Unit := do
  skip (parens lower.query)
  keyword "TO"
  skip name
  after? ["WITH"] (settings lower)

/-- What a merge does with rows that have a match, or have none in the target. -/
def mergeAction (lower : Level) (absent : Bool) : Parser Unit := do
  if absent then
    keyword "INSERT"
    skip columns?
    keyword "VALUES"
    skip <| list do
      skip (keyword? "ROW")
      skip (parens (list (lower.expr 0)))
  else if (← oneOf ["UPDATE", "DELETE"]) = "UPDATE" then
    keyword "SET"
    skip (list (assignment lower))

/-- A merge after its keyword. -/
def merge (lower : Level) : Parser Unit := do
  skip (keyword? "INTO")
  skip (factor lower ((← get).length + 1))
  keyword "USING"
  skip (factor lower ((← get).length + 1))
  keyword "ON"
  skip (lower.expr 0)
  exhaust do
    if (← get).isEmpty || (← markAhead ";") then return false
    keyword "WHEN"
    let unmatched ← keyword? "NOT"
    keyword "MATCHED"
    let absent ← do
      if !unmatched then pure false
      else if ← keywords? ["BY", "SOURCE"] then pure false
      else
        skip (keywords? ["BY", "TARGET"])
        pure true
    after? ["AND"] (lower.expr 0)
    keyword "THEN"
    mergeAction lower absent
    return true

end Clickstream.Sql.Parser
