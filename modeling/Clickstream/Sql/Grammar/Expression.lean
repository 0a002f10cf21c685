import Clickstream.Sql.Grammar.Operand

/-! The grammar of expressions: operands and operators by binding strength. Operators of one
strength bind to the left. -/
namespace Clickstream.Sql.Parser

/-- Comparisons, and matches by patterns. -/
def comparisons : List String :=
  ["=", "<", "<=", "<>", "!=", ">", ">=", "==", "~", "~*", "!~", "!~*", "~~", "~~*", "!~~", "!~~*",
   "<=>"]

/-- Operators on bits, documents, ranges and texts. -/
def otherOperators : List String :=
  ["->", "->>", "#>", "#>>", "@>", "<@", "#-", "@?", "@@", "?", "?&", "?|", "&&", "^@", "||", "#",
   ">>", "<<", "|", "&"]

/-- Words that begin a test of an expression. -/
def tests : List String := ["IN", "BETWEEN", "LIKE", "ILIKE", "RLIKE", "REGEXP", "SIMILAR"]

/-- How strongly the tokens ahead bind to an expression before them; zero ends it. -/
def strength : List Token → Nat
  | .word _ key _ :: rest =>
    match key with
    | "OR" => 10
    | "AND" => 20
    | "XOR" => 75
    | "IS" => 40
    | "OPERATOR" => 60
    | "DIV" => 90
    | "COLLATE" => 120
    | "AT" =>
      match rest with
      | a :: b :: _ => if a.isKeyword "TIME" && b.isKeyword "ZONE" then 110 else 0
      | _ => 0
    | "NOT" =>
      match rest with
      | .word _ key _ :: _ => if tests.contains key then 60 else 0
      | _ => 0
    | _ => if tests.contains key then 60 else 0
  | .custom _ :: _ => 70
  | .mark text :: _ =>
    if text = "::" then 140
    else if text = "[" then 130
    else if text = "^" then 100
    else if ["*", "/", "%"].contains text then 90
    else if ["+", "-"].contains text then 80
    else if text = "!" ∨ otherOperators.contains text then 70
    else if comparisons.contains text then 50
    else 0
  | _ => 0

/-- The operator that a token gives, if it stands between two operands. -/
def binaryOperator? (token : Token) : Parser (Option String) := do
  match token with
  | .custom text => return some text
  | .mark text =>
    if ["^", "*", "/", "%", "+", "-"].contains text || otherOperators.contains text ||
        comparisons.contains text then return some text
    else return none
  | .word _ key _ =>
    match key with
    | "AND" | "OR" | "XOR" => return some key
    | "OPERATOR" =>
      let _ ← parens (separated "." next ((← get).length + 1))
      return some key
    | _ => return none
  | _ => return none

/-- What follows an operator. Only comparisons take all or any of several values. -/
def binary (lower : Level) (bound : Nat) (left : Expr) (operator : String) : Parser Expr := do
  match ← oneOf? ["ANY", "ALL"] with
  | none => return .apply (.binary operator) [left, ← lower.expr bound]
  | some quantifier =>
    let right ← parens (lower.expr bound)
    if ["=", "==", "<>", "!=", "<", ">", "<=", ">="].contains operator then
      return .apply (.quantified operator quantifier) [left, right]
    else fail

/-- What follows `IS`. -/
def isTest (lower : Level) (left : Expr) : Parser Expr := do
  let negated ← keyword? "NOT"
  match ← oneOf? ["NULL", "TRUE", "FALSE", "UNKNOWN", "DISTINCT"] with
  | some "DISTINCT" =>
    keyword "FROM"
    return .apply (.distinctFrom negated) [left, ← lower.expr 0]
  | some test => return .apply (.is (if negated then "NOT " ++ test else test)) [left]
  | none => fail

/-- The escape character of a pattern, if it is given. -/
def escape? : Parser (Option String) := do
  if ← keyword? "ESCAPE" then return some (← textLiteral) else return none

/-- What follows `IN`: a list, a query or an array. -/
def inTest (lower : Level) (left : Expr) (negated : Bool) : Parser Expr := do
  if ← keyword? "UNNEST" then
    return .apply (.inUnnest negated) [left, ← parens (lower.expr 0)]
  parens do
    if ← queryAhead then return .query (.inQuery negated) [left] (← lower.query)
    else return .apply (.inList negated) (left :: (← list (lower.expr 0)))

/-- A test of an expression, from its first word on. -/
def test (lower : Level) (left : Expr) (negated : Bool) : Parser Expr := do
  match ← oneOf tests with
  | "IN" => inTest lower left negated
  | "BETWEEN" =>
    let low ← lower.expr 60
    keyword "AND"
    return .apply (.between negated) [left, low, ← lower.expr 60]
  | "SIMILAR" =>
    keyword "TO"
    let pattern ← lower.expr 60
    return .apply (.similar negated (← escape?)) [left, pattern]
  | "LIKE" =>
    let pattern ← lower.expr 60
    return .apply (.like negated false (← escape?)) [left, pattern]
  | "ILIKE" =>
    let pattern ← lower.expr 60
    return .apply (.like negated true (← escape?)) [left, pattern]
  | key =>
    if key = "REGEXP" then let _ ← keyword? "RLIKE"
    return .apply (.regexp negated) [left, ← lower.expr 60]

/-- A subscript after its opening bracket: an index, or a slice with up to three bounds. -/
def subscript (lower : Level) (left : Expr) : Parser Expr := do
  let bound? : Parser (List Expr) := do
    if ← markAhead "]" then return [] else return [← lower.expr 0]
  let index ← do
    if ← markAhead ":" then pure [] else pure [← lower.expr 0]
  let bounds ← do
    if ← mark? ":" then
      let upper ← bound?
      let stride ← do
        if upper.isEmpty then pure []
        else if ← mark? ":" then bound?
        else pure []
      pure (upper ++ stride)
    else pure []
  mark "]"
  return .apply .subscript ([left] ++ index ++ bounds)

/-- The expression that an operator or a test makes of the one before it. -/
def continued (lower : Level) (bound : Nat) (left : Expr) : Parser Expr := do
  let token ← next
  match ← binaryOperator? token with
  | some operator => binary lower bound left operator
  | none =>
    match token with
    | .mark "::" =>
      let _ ← typeName
      return .apply .cast [left]
    | .mark "!" => return .apply .factorial [left]
    | .mark "[" => subscript lower left
    | .word _ key _ =>
      match key with
      | "IS" => isTest lower left
      | "AT" =>
        keywords ["TIME", "ZONE"]
        return .apply .atTimeZone [left, ← lower.expr bound]
      | "NOT" => test lower left true
      | _ =>
        if tests.contains key then
          modify (token :: ·)
          test lower left false
        else fail
    | _ => fail

/-- The operators after an expression that bind more strongly than `bound`, in turn. The fuel
bounds their number. -/
def extended (lower : Level) (bound : Nat) (left : Expr) : Nat → Parser Expr
  | 0 => fail
  | fuel + 1 => do
    let ahead := strength (← get)
    if ahead ≤ bound then return left
    let e ← continued lower ahead left
    extended lower bound e fuel

/-- An expression whose operators bind more strongly than `bound`. -/
def expression (lower : Level) (bound : Nat) : Parser Expr := do
  let e ← operand lower
  extended lower bound e ((← get).length + 1)

end Clickstream.Sql.Parser
