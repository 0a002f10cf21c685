import Clickstream.Sql.Grammar.TypeName

/-! The grammar of intervals, function calls and windows. An interval's value is an operand that
is read without counting as nested, so that reader is passed in. -/
namespace Clickstream.Sql.Parser

/-- The name of a field of a date: any word, or a string. -/
def dateField : Parser String := do
  match ← next with
  | .word _ key _ => return key
  | .string .single _ => return ""
  | _ => fail

/-- An interval after its keyword: a value, then a unit with a precision or a range of units. -/
def interval (operand : Parser Expr) : Parser Expr := do
  let e ← operand
  let unit ← oneOf? Keyword.timeUnits
  if unit = some "SECOND" then precisionScale?
  else
    precision?
    if ← keyword? "TO" then
      if (← dateField) = "SECOND" then precision?
  return .apply .interval [e]

/-- A table's name and a star. -/
def qualifiedStar (table : List Name) : Nat → Parser Expr
  | 0 => fail
  | fuel + 1 => do
    let part ← name
    mark "."
    if ← mark? "*" then return .star (table ++ [part])
    else qualifiedStar (table ++ [part]) fuel

/-- A star, with a table's name or without, or an expression. -/
def starOr (lower : Level) : Parser Expr := do
  if ← mark? "*" then return .star []
  match ← attempt (qualifiedStar [] ((← get).length + 1)) with
  | some e => return e
  | none => lower.expr 0

/-- An expression to order by, with its direction. -/
def orderItem (lower : Level) : Parser Expr := do
  let e ← lower.expr 0
  let _ ← oneOf? ["ASC", "DESC"]
  unless ← keywords? ["NULLS", "FIRST"] do
    let _ ← keywords? ["NULLS", "LAST"]
  return e

/-- Expressions after `ORDER BY`, if these words follow. -/
def orderBy? (lower : Level) : Parser (List Expr) := do
  if ← keywords? ["ORDER", "BY"] then list (orderItem lower) else return []

/-- An argument, which may have a name. -/
def argument (lower : Level) : Parser Expr := do
  if (← peekAt? 1).any (Token.isMark "=>") then
    let n ← name
    mark "=>"
    return .apply (.namedArgument n) [← starOr lower]
  else starOr lower

/-- What is done when an aggregated list grows too long, if it is said. -/
def onOverflow? (lower : Level) : Parser (List Clause) := do
  if ← keywords? ["ON", "OVERFLOW"] then
    if ← keyword? "ERROR" then return [.clause .onOverflow []]
    keyword "TRUNCATE"
    let filler ← match ← peek? with
      | some (.word _ key _) => if key = "WITH" ∨ key = "WITHOUT" then pure [] else fail
      | some (.string quoting _) => if quoting = .dollar then fail else pure [← lower.expr 0]
      | _ => fail
    let _ ← oneOf ["WITH", "WITHOUT"]
    keyword "COUNT"
    return [.clause .onOverflow filler]
  else return []

/-- The arguments of a call after the opening parenthesis, to the closing one. -/
def arguments (lower : Level) : Parser (List Expr × List Clause) := do
  if ← mark? ")" then return ([], [])
  let all ← keyword? "ALL"
  let distinct ← keyword? "DISTINCT"
  if all && distinct then fail
  let args ← list (argument lower)
  let order ← orderBy? lower
  let limit ← do if ← keyword? "LIMIT" then pure [← lower.expr 0] else pure []
  let overflow ← onOverflow? lower
  mark ")"
  let clause (kind : ClauseKind) (present : Bool) (es : List Expr) : List Clause :=
    if present then [.clause kind es] else []
  return (args, clause .allArguments all [] ++ clause .distinctArguments distinct [] ++
    clause .orderBy (!order.isEmpty) order ++ clause .limit (!limit.isEmpty) limit ++ overflow)

/-- One end of a window's frame. -/
def frameBound (lower : Level) (operand : Parser Expr) : Parser (List Expr) := do
  if ← keywords? ["CURRENT", "ROW"] then return []
  let rows ← do
    if ← keyword? "UNBOUNDED" then pure []
    else
      match ← peek? with
      | some (.string .single _) => pure [← interval operand]
      | _ => pure [← lower.expr 0]
  let _ ← oneOf ["PRECEDING", "FOLLOWING"]
  return rows

/-- A window after its opening parenthesis, to the closing one. -/
def window (lower : Level) (operand : Parser Expr) : Parser (List Expr) := do
  match ← peek? with
  | some (.word _ key _) => if !Keyword.all.contains key then let _ ← next
  | _ => pure ()
  let partition ← do
    if ← keywords? ["PARTITION", "BY"] then list (lower.expr 0) else pure []
  let order ← orderBy? lower
  if ← mark? ")" then return partition ++ order
  let _ ← oneOf ["ROWS", "RANGE", "GROUPS"]
  let bounds ← do
    if ← keyword? "BETWEEN" then
      let low ← frameBound lower operand
      keyword "AND"
      pure (low ++ (← frameBound lower operand))
    else frameBound lower operand
  mark ")"
  return partition ++ order ++ bounds

/-- The clauses after a call's arguments. The word `FILTER` is passed even where no filter
follows it. -/
def callClauses (lower : Level) (operand : Parser Expr) : Parser (List Clause) := do
  let group ← do
    if ← keywords? ["WITHIN", "GROUP"] then
      let order ← parens do
        keywords ["ORDER", "BY"]
        list (orderItem lower)
      pure [Clause.clause .withinGroup order]
    else pure []
  let filter ← do
    if !(← keyword? "FILTER") then pure []
    else if !(← mark? "(") then pure []
    else if !(← keyword? "WHERE") then pure []
    else
      let e ← lower.expr 0
      mark ")"
      pure [Clause.clause .filter [e]]
  let nulls ← do
    if (← oneOf? ["RESPECT", "IGNORE"]).isSome then
      keyword "NULLS"
      pure [Clause.clause .nullTreatment []]
    else pure []
  let windowed ← do
    if ← keyword? "OVER" then
      if ← mark? "(" then pure [Clause.clause .windowed (← window lower operand)]
      else
        let _ ← name
        pure [Clause.clause .windowed []]
    else pure []
  return group ++ filter ++ nulls ++ windowed

/-- A call, from its opening parenthesis on. -/
def call (lower : Level) (operand : Parser Expr) (function : List Name) : Parser Expr := do
  mark "("
  let (args, inner) ← arguments lower
  return .call function (some args) (inner ++ (← callClauses lower operand))

end Clickstream.Sql.Parser
