import Clickstream.Sql.Grammar.Expression

/-! The grammar of what a `FROM` clause reads: tables, functions, queries, and joins of them. -/
namespace Clickstream.Sql.Parser

/-- A query in parentheses whose opening one has been read, with its alias. -/
def derived (lower : Level) : Parser Source := do
  let q ← lower.query
  mark ")"
  return .derived q (← tableAlias?)

/-- The expressions that a join compares on. -/
def joinConditions (lower : Level) (natural : Bool) : Parser (List Expr) := do
  if natural then return []
  if ← keyword? "ON" then return [← lower.expr 0]
  if ← keyword? "USING" then
    let _ ← parens (list name)
  return []

/-- The words of a join, if one follows, and how its conditions are read. -/
def joinWords? : Parser (Option (Level → Parser (List Expr))) := do
  let none' : Level → Parser (List Expr) := fun _ => return []
  let _ ← keyword? "GLOBAL"
  if ← keyword? "CROSS" then
    let _ ← oneOf ["JOIN", "APPLY"]
    return some none'
  if ← keyword? "OUTER" then
    keyword "APPLY"
    return some none'
  if ← keyword? "ASOF" then
    keyword "JOIN"
    return some fun lower => do
      keyword "MATCH_CONDITION"
      let e ← parens (lower.expr 0)
      return e :: (← joinConditions lower false)
  let natural ← keyword? "NATURAL"
  let conditions : Level → Parser (List Expr) := fun lower => joinConditions lower natural
  match ← oneOf? ["INNER", "JOIN", "LEFT", "RIGHT", "FULL"] with
  | some "JOIN" => return some conditions
  | some "INNER" =>
    keyword "JOIN"
    return some conditions
  | some "FULL" =>
    let _ ← keyword? "OUTER"
    keyword "JOIN"
    return some conditions
  | some _ =>
    if (← oneOf ["OUTER", "SEMI", "ANTI", "JOIN"]) ≠ "JOIN" then keyword "JOIN"
    return some conditions
  | none => if natural then fail else return none

/-- Something with an alias after `AS`, if one follows. -/
def labelled (inner : Parser Expr) : Parser Expr := do
  let e ← inner
  if ← keyword? "AS" then
    let _ ← name
  return e

/-- `PIVOT` after its keyword: rows become columns, one for each value that is listed. -/
def pivot (lower : Level) (source : Source) : Parser Source := do
  parens do
    let _ ← list <| labelled do
      match ← next with
      | .word text _ quoted => call lower (operand lower) [Name.ofWord text quoted]
      | _ => fail
    keyword "FOR"
    let _ ← path
    keyword "IN"
    parens do
      if ← keyword? "ANY" then
        let _ ← orderBy? lower
      else if ← queryAhead then
        let _ ← lower.query
      else
        let _ ← list (labelled (lower.expr 0))
    if ← keywords? ["DEFAULT", "ON", "NULL"] then
      let _ ← parens (lower.expr 0)
  return .turned source (← tableAlias?)

/-- `UNPIVOT` after its keyword: columns become rows. -/
def unpivot (source : Source) : Parser Source := do
  parens do
    let _ ← name
    keyword "FOR"
    let _ ← name
    keyword "IN"
    let _ ← parens (list name)
  return .turned source (← tableAlias?)

/-- The turns of a source that follow it. The fuel bounds their number. -/
def turns (lower : Level) (source : Source) : Nat → Parser Source
  | 0 => fail
  | fuel + 1 => do
    match ← oneOf? ["PIVOT", "UNPIVOT"] with
    | some "PIVOT" => turns lower (← pivot lower source) fuel
    | some _ => turns lower (← unpivot source) fuel
    | none => return source

/-- A source with the turns that follow it. -/
def turnable (lower : Level) (inner : Parser Source) : Parser Source := do
  let source ← inner
  turns lower source ((← get).length + 1)

/-- A table's name, or a function's with arguments, and its alias. -/
def tableOrFunction (lower : Level) : Parser Source := do
  let table ← path
  let args? ← do
    if ← markAhead "(" then pure (some (← parensList (argument lower))) else pure none
  let _ ← keywords? ["WITH", "ORDINALITY"]
  let aliasName ← tableAlias?
  let _ ← attempt do
    keyword "WITH"
    parens (list (lower.expr 0))
  match args? with
  | some args => return .function table args aliasName
  | none => return .table table aliasName

/-- A column of a document's rows: its type, its place, and what stands for what is missing. -/
def documentColumn : Parser Unit := do
  let _ ← name
  let _ ← typeName
  let _ ← keyword? "EXISTS"
  keyword "PATH"
  let _ ← value
  let _ ← many do
    match ← oneOf? ["NULL", "ERROR", "DEFAULT"] with
    | some key =>
      if key = "DEFAULT" then let _ ← value
      keyword "ON"
      return some (← oneOf ["EMPTY", "ERROR"])
    | none => return none

/-- The rows of a document after `JSON_TABLE` and an opening parenthesis. -/
def documentRows (lower : Level) : Parser Source := do
  let e ← lower.expr 0
  mark ","
  let _ ← value
  keyword "COLUMNS"
  let _ ← parens (list documentColumn)
  mark ")"
  return .function [⟨"JSON_TABLE", none⟩] [e] (← tableAlias?)

/-- The rows of arrays after `UNNEST`. The word `WITH` is passed even where no offset follows it. -/
def unnested (lower : Level) : Parser Source := do
  let arrays ← parens (list (lower.expr 0))
  let _ ← keywords? ["WITH", "ORDINALITY"]
  let aliasName ← tableAlias?
  if ← keyword? "WITH" then
    if ← keyword? "OFFSET" then let _ ← alias? Keyword.notColumnAlias
  return .function [⟨"UNNEST", none⟩] arrays aliasName

/-- The joins after a source, and whether there are any. -/
def joins (lower : Level) (factor : Parser Source) (left : Source) :
    Nat → Parser (Source × Bool)
  | 0 => fail
  | fuel + 1 => do
    match ← joinWords? with
    | none => return (left, false)
    | some conditions =>
      let right ← factor
      let es ← conditions lower
      return ((← joins lower factor (.join left right es) fuel).1, true)

/-- One source without joins after it. Parentheses hold a query or a join; sources nest without
counting, and the fuel bounds how deep. -/
def factor (lower : Level) : Nat → Parser Source
  | 0 => fail
  | fuel + 1 => do
    if ← keyword? "LATERAL" then
      if ← mark? "(" then derived lower
      else
        let function ← path
        let args ← parensList (argument lower)
        return .function function args (← tableAlias?)
    else if ← keyword? "TABLE" then
      let e ← parens (lower.expr 0)
      return .function [⟨"TABLE", none⟩] [e] (← tableAlias?)
    else if ← mark? "(" then
      match ← attempt (derived lower) with
      | some source => turnable lower (pure source)
      | none =>
        let left ← factor lower fuel
        let (source, joined) ← joins lower (factor lower fuel) left ((← get).length + 1)
        let nested := match left with
          | .nested .. => true
          | _ => false
        if !(joined || nested) then fail
        mark ")"
        return .nested source (← tableAlias?)
    else if ← keyword? "UNNEST" then unnested lower
    else
      match ← attempt (do keyword "JSON_TABLE"; mark "(") with
      | some () => documentRows lower
      | none => turnable lower (tableOrFunction lower)

/-- A source with the joins after it. -/
def source (lower : Level) : Parser Source := do
  let fuel := (← get).length + 1
  let left ← factor lower fuel
  return (← joins lower (factor lower fuel) left fuel).1

end Clickstream.Sql.Parser
