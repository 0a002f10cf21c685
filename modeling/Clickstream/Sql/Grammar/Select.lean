import Clickstream.Sql.Grammar.Source
import Clickstream.Text.Uppercase

/-! The grammar of selects. -/
namespace Clickstream.Sql.Parser

/-- A select item. A column named `from` is refused, unless in quotes. -/
def selectItem (lower : Level) : Parser Item := do
  match ← starOr lower with
  | .star path => return .star path
  | e =>
    let isFrom := match e with
      | .column [n] => n.quote.isNone && Text.lowerAscii n.text == "from"
      | _ => false
    if isFrom then fail
    match ← alias? Keyword.notColumnAlias with
    | some aliasName => return .aliased e aliasName
    | none => return .plain e

/-- What may stand between `SELECT` and the items: a quantifier, then a number of rows. -/
def quantifier (lower : Level) : Parser (Quantifier × List Clause) := do
  let all ← keyword? "ALL"
  let distinct ← keyword? "DISTINCT"
  if all && distinct then fail
  let on ← do
    if !distinct then pure []
    else if ← keyword? "ON" then
      pure [Clause.clause .distinctOn (← parensList (lower.expr 0))]
    else pure []
  let top ← do
    if ← keyword? "TOP" then
      let es ← do
        if ← markAhead "(" then pure [← parens (lower.expr 0)]
        else
          let _ ← whole
          pure []
      let _ ← keyword? "PERCENT"
      let _ ← keywords? ["WITH", "TIES"]
      pure [Clause.clause .top es]
    else pure []
  return (if distinct then .distinct else .all, on ++ top)

/-- The table that rows are selected into, if one follows. -/
def into? : Parser (List Clause) := do
  if ← keyword? "INTO" then
    let _ ← oneOf? ["TEMP", "TEMPORARY"]
    let _ ← keyword? "UNLOGGED"
    let _ ← keyword? "TABLE"
    let _ ← path
    return [.clause .into []]
  else return []

/-- The lateral views after the sources. -/
def lateralViews (lower : Level) : Parser (List Clause) := many do
  if ← keywords? ["LATERAL", "VIEW"] then
    let _ ← keyword? "OUTER"
    let e ← lower.expr 0
    let _ ← path
    let _ ← list (alias? Keyword.notViewAlias)
    return some (.clause .lateralView [e])
  else return none

/-- A tuple to group by; without parentheses it is one expression, where that is allowed. -/
def groupTuple (lower : Level) (bare : Bool) : Parser Expr := do
  if bare && !(← markAhead "(") then return .apply .tuple [← lower.expr 0]
  return .apply .tuple (← parensList (lower.expr 0))

/-- An expression to group by, or sets of them. -/
def groupItem (lower : Level) : Parser Expr := do
  if ← keywords? ["GROUPING", "SETS"] then
    return .apply .groupingSets (← parens (list (groupTuple lower false)))
  if ← keyword? "CUBE" then return .apply .cube (← parens (list (groupTuple lower true)))
  if ← keyword? "ROLLUP" then return .apply .rollup (← parens (list (groupTuple lower true)))
  match ← attempt (do mark "("; mark ")") with
  | some () => return .apply .tuple []
  | none => lower.expr 0

def groupBy? (lower : Level) : Parser (List Clause) := do
  if ← keywords? ["GROUP", "BY"] then
    if ← keyword? "ALL" then return [.clause .groupByAll []]
    return [.clause .groupBy (← list (groupItem lower))]
  else return []

/-- A clause that is one keyword and one expression, if it follows. -/
def one? (lower : Level) (key : String) (kind : ClauseKind) : Parser (List Clause) := do
  if ← keyword? key then return [.clause kind [← lower.expr 0]] else return []

/-- A clause that is some keywords and a list of expressions, if it follows. -/
def listed? (keys : List String) (kind : ClauseKind) (item : Parser Expr) :
    Parser (List Clause) := do
  if ← keywords? keys then return [.clause kind (← list item)] else return []

/-- Named windows, if they follow. -/
def windows? (lower : Level) : Parser (List Clause) := do
  if ← keyword? "WINDOW" then
    let specs ← list do
      let _ ← name
      keyword "AS"
      mark "("
      window lower (operand lower)
    return [.clause .window specs.flatten]
  else return []

/-- A select after its keyword. -/
def select (lower : Level) : Parser Select := do
  let (quantifier, first) ← quantifier lower
  let items ← list (selectItem lower)
  let into ← into?
  let sources ← do if ← keyword? "FROM" then list (source lower) else pure []
  let views ← lateralViews lower
  let condition ← one? lower "WHERE" .where
  let groups ← groupBy? lower
  let cluster ← listed? ["CLUSTER", "BY"] .clusterBy (lower.expr 0)
  let distribute ← listed? ["DISTRIBUTE", "BY"] .distributeBy (lower.expr 0)
  let sort ← listed? ["SORT", "BY"] .sortBy (lower.expr 0)
  let having ← one? lower "HAVING" .having
  let before ← windows? lower
  let qualify ← one? lower "QUALIFY" .qualify
  let after ← do
    if before.isEmpty && !qualify.isEmpty then windows? lower else pure []
  return .select quantifier items sources (first ++ into ++ views ++ condition ++ groups ++
    cluster ++ distribute ++ sort ++ having ++ before ++ qualify ++ after)

end Clickstream.Sql.Parser
