import Clickstream.Sql.Grammar.Modification

/-! The grammar of queries. Expressions and queries nest at most as deep as their level says; the
sources of a query and the operators between selects do not count. -/
namespace Clickstream.Sql.Parser

/-- The operator between two selects that follows, with its binding strength. -/
def setOperator? : Parser (Option (SetOperator × Nat)) := do
  match ← peek? with
  | some (.word _ "UNION" _) => return some (.union, 10)
  | some (.word _ "EXCEPT" _) => return some (.except, 10)
  | some (.word _ "INTERSECT" _) => return some (.intersect, 20)
  | _ => return none

/-- How rows that are equal, and columns by name, are treated by an operator between selects. -/
def setQuantifier : Parser Unit := do
  if ← keywords? ["DISTINCT", "BY", "NAME"] then return ()
  if ← keywords? ["BY", "NAME"] then return ()
  if ← keyword? "ALL" then
    let _ ← keywords? ["BY", "NAME"]
    return ()
  let _ ← keyword? "DISTINCT"

/-- A query's body without operators: a select, rows of values, or a query in parentheses.
`TABLE` takes the next three tokens whatever they are. -/
def bodyOperand (lower : Level) : Parser Body := do
  if ← keyword? "SELECT" then return .select (← select lower)
  if ← mark? "(" then
    let q ← lower.query
    mark ")"
    return .nested q
  if ← keyword? "VALUES" then
    let rows ← list do
      let _ ← keyword? "ROW"
      return .apply .tuple (← parens (list (lower.expr 0)))
    return .values rows
  keyword "TABLE"
  let isWord (token : Option Token) : Bool := token.any fun
    | .word .. => true
    | _ => false
  let dotted := (← peekAt? 1).any (Token.isMark ".")
  if !isWord (← peek?) || (dotted && !isWord (← peekAt? 2)) then fail
  modify (·.drop 3)
  return .table

/-- The operators after a body, in turn; `right` reads a right operand that binds more strongly than
its operator. The fuel bounds the number of operators. -/
def bodyRest (right : Nat → Parser Body) (bound : Nat) (left : Body) : Nat → Parser Body
  | 0 => fail
  | rounds + 1 => do
    match ← setOperator? with
    | none => return left
    | some (operator, strength) =>
      if strength ≤ bound then return left
      let _ ← next
      setQuantifier
      bodyRest right bound (.combined operator left (← right strength)) rounds

/-- A body whose operators bind more strongly than `bound`. A right operand is bound more strongly
than its operator, of which there are two strengths, so the fuel never runs out at three. -/
def body (lower : Level) : Nat → Nat → Parser Body
  | 0, _ => fail
  | fuel + 1, bound => do
    let left ← bodyOperand lower
    bodyRest (body lower fuel) bound left ((← get).length + 1)

/-- A named query. -/
def cte (lower : Level) : Parser Cte := do
  let n ← name
  let announced ← keyword? "AS"
  let columns ← do
    if announced then pure []
    else
      let columns ← columns?
      keyword "AS"
      pure columns
  unless ← keyword? "MATERIALIZED" do
    let _ ← keywords? ["NOT", "MATERIALIZED"]
  let q ← parens lower.query
  if ← keyword? "FROM" then
    let _ ← name
  return .cte n columns q

/-- The limit and the offset, each at most once, in any order. All rows are no limit. -/
def limits (lower : Level) : Parser (List Clause) := do
  let limit? (seen : List Clause) : Parser (List Clause) := do
    if !seen.isEmpty then return seen
    if ← keyword? "LIMIT" then
      if ← keyword? "ALL" then return [] else return [.clause .limit [← lower.expr 0]]
    else return seen
  let offset? (seen : List Clause) : Parser (List Clause) := do
    if !seen.isEmpty then return seen
    if ← keyword? "OFFSET" then
      let e ← lower.expr 0
      let _ ← oneOf? ["ROW", "ROWS"]
      return [.clause .offset [e]]
    else return seen
  let limit ← limit? []
  let offset ← offset? []
  let limit ← limit? limit
  let offset ← offset? offset
  return limit ++ offset

/-- `FETCH`, if it follows. -/
def fetch? : Parser (List Clause) := do
  if ← keyword? "FETCH" then
    let _ ← oneOf ["FIRST", "NEXT"]
    let es ← do
      if (← oneOf? ["ROW", "ROWS"]).isSome then pure []
      else
        let e ← value
        let _ ← keyword? "PERCENT"
        let _ ← oneOf ["ROW", "ROWS"]
        pure [e]
    unless ← keyword? "ONLY" do keywords ["WITH", "TIES"]
    return [.clause .fetch es]
  else return []

/-- A string in parentheses, if one follows. -/
def label? : Parser Unit := do
  if ← markAhead "(" then let _ ← parens textLiteral

/-- Options of a document's form, each after a comma; a comma may also stand alone. -/
def documentOptions (keys : List String) : Parser Unit := do
  let _ ← many do
    if ← mark? "," then
      match ← oneOf? keys with
      | some "BINARY" => keyword "BASE64"
      | some "ROOT" => let _ ← parens textLiteral
      | _ => pure ()
      return some ()
    else return none

/-- The form of a document that a query's rows are written as, if it follows `FOR`. -/
def documentForm? : Parser Bool := do
  match ← oneOf? ["XML", "JSON", "BROWSE"] with
  | some "XML" =>
    if (← oneOf ["RAW", "AUTO", "EXPLICIT", "PATH"]) ∈ ["RAW", "PATH"] then label?
    documentOptions ["TYPE", "BINARY", "ROOT", "ELEMENTS"]
    return true
  | some "JSON" =>
    let _ ← oneOf ["AUTO", "PATH"]
    documentOptions ["ROOT", "INCLUDE_NULL_VALUES", "WITHOUT_ARRAY_WRAPPER"]
    return true
  | some _ => return true
  | none => return false

/-- Locks on the rows, and at last the form of a document. The fuel bounds their number. -/
def locks : Nat → Parser (List Clause)
  | 0 => fail
  | fuel + 1 => do
    if ← keyword? "FOR" then
      if ← documentForm? then return [.clause .forFormat []]
      let _ ← oneOf ["UPDATE", "SHARE"]
      if ← keyword? "OF" then
        let _ ← path
      unless ← keyword? "NOWAIT" do
        let _ ← keywords? ["SKIP", "LOCKED"]
      return .clause .forUpdate [] :: (← locks fuel)
    else return []

/-- A query over what it may nest. -/
def query (lower : Level) : Parser Query := do
  let tables ← do
    if ← keyword? "WITH" then
      let _ ← keyword? "RECURSIVE"
      list (cte lower)
    else pure []
  if ← keyword? "INSERT" then
    insert lower
    return .query tables .modification []
  if ← keyword? "UPDATE" then
    update lower
    return .query tables .modification []
  let body ← body lower 3 0
  let order ← listed? ["ORDER", "BY"] .orderBy (orderItem lower)
  let limits ← limits lower
  let fetch ← fetch?
  let locks ← locks ((← get).length + 1)
  return .query tables body (order ++ limits ++ fetch ++ locks)

/-- Expressions and queries that nest at most `depth` deep. -/
def level : Nat → Level
  | 0 => ⟨fun _ => fail, fail⟩
  | depth + 1 => ⟨expression (level depth), query (level depth)⟩

end Clickstream.Sql.Parser
