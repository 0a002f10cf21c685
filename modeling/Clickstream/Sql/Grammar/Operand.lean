import Clickstream.Sql.Grammar.Call

/-! The grammar of operands: expressions without an operator between them. Parentheses and calls
nest through the level below, intervals do not count as nested. -/
namespace Clickstream.Sql.Parser

/-- The parts of a name after its first, and whether a star ends it. -/
def nameParts : Nat → Parser (List Name × Bool)
  | 0 => fail
  | fuel + 1 => do
    if ← mark? "." then
      if ← mark? "*" then return ([], true)
      let part ← name
      let (parts, star) ← nameParts fuel
      return (part :: parts, star)
    else return ([], false)

/-- What a word stands for that has no meaning of its own: a column, a table's columns or a call. -/
def plainWord (lower : Level) (operand : Parser Expr) (first : Name) : Parser Expr := do
  let (parts, star) ← nameParts ((← get).length + 1)
  if star then return .star (first :: parts)
  if ← markAhead "(" then call lower operand (first :: parts)
  else
    match ← peek? with
    | some (.string quoting text) =>
      if parts.isEmpty && first.text.startsWith "_" &&
          (quoting = .single || quoting = .hexadecimal) then
        let _ ← next
        return .literal text
      else return .column (first :: parts)
    | _ => return .column (first :: parts)

/-- A conditional expression after `CASE`. -/
def caseExpression (lower : Level) : Parser Expr := do
  let operand ← do
    if ← keyword? "WHEN" then pure []
    else
      let e ← lower.expr 0
      keyword "WHEN"
      pure [e]
  let branch : Parser (List Expr) := do
    let condition ← lower.expr 0
    keyword "THEN"
    return [condition, ← lower.expr 0]
  let first ← branch
  let others ← many do
    if ← keyword? "WHEN" then return some (← branch) else return none
  let default ← do
    if ← keyword? "ELSE" then pure [← lower.expr 0] else pure []
  keyword "END"
  return .apply (.case (!operand.isEmpty) (!default.isEmpty))
    (operand ++ default ++ first ++ others.flatten)

/-- A cast after its keyword. -/
def cast (lower : Level) : Parser Expr := parens do
  let e ← lower.expr 0
  keyword "AS"
  let _ ← typeName
  if ← keyword? "FORMAT" then
    let _ ← value
    if ← keywords? ["AT", "TIME", "ZONE"] then let _ ← value
  return .apply .cast [e]

/-- A conversion after its keyword. -/
def conversion (lower : Level) : Parser Expr := parens do
  let e ← lower.expr 0
  if ← keyword? "USING" then
    let _ ← path
  else
    mark ","
    let _ ← typeName
    if ← keywords? ["CHARACTER", "SET"] then let _ ← path
  return .apply .convert [e]

/-- `EXTRACT` after its keyword. -/
def extraction (lower : Level) : Parser Expr := parens do
  let _ ← dateField
  keyword "FROM"
  return .apply .extract [← lower.expr 0]

/-- `CEIL` or `FLOOR` after its keyword. -/
def rounding (lower : Level) (form : Form) : Parser Expr := parens do
  let e ← lower.expr 0
  if ← keyword? "TO" then let _ ← dateField
  else if ← mark? "," then let _ ← numberValue
  return .apply form [e]

/-- `POSITION` after its keyword, in the form with `IN`. -/
def position (lower : Level) : Parser Expr := parens do
  let part ← lower.expr 60
  keyword "IN"
  return .apply .position [part, ← lower.expr 0]

/-- `SUBSTRING` after its keyword. -/
def substring (lower : Level) : Parser Expr := parens do
  let e ← lower.expr 0
  let start ← do
    if ← mark? "," then pure [← lower.expr 0]
    else if ← keyword? "FROM" then pure [← lower.expr 0]
    else pure []
  let length ← do
    if ← keyword? "FOR" then pure [← lower.expr 0]
    else if ← mark? "," then pure [← lower.expr 0]
    else pure []
  return .apply .substring ([e] ++ start ++ length)

/-- `OVERLAY` after its keyword. -/
def overlay (lower : Level) : Parser Expr := parens do
  let e ← lower.expr 0
  keyword "PLACING"
  let text ← lower.expr 0
  keyword "FROM"
  let start ← lower.expr 0
  let length ← do
    if ← keyword? "FOR" then pure [← lower.expr 0] else pure []
  return .apply .overlay ([e, text, start] ++ length)

/-- `TRIM` after its keyword. A comma may stand before the closing parenthesis. -/
def trimming (lower : Level) : Parser Expr := parens do
  let side ← oneOf? ["BOTH", "LEADING", "TRAILING"]
  let e ← lower.expr 0
  if ← keyword? "FROM" then return .apply (.trim side) [← lower.expr 0, e]
  let _ ← mark? ","
  return .apply (.trim side) [e]

/-- The items of an array up to its closing bracket. -/
def arrayItems (lower : Level) : Parser Expr := do
  if ← mark? "]" then return .apply .array []
  let es ← list (lower.expr 0)
  mark "]"
  return .apply .array es

/-- `EXISTS` after its keyword. -/
def existence (lower : Level) (negated : Bool) : Parser Expr := do
  return .query (.exists negated) [] (← parens lower.query)

/-- What an opening parenthesis begins: a query, an expression or several, or a member of one. -/
def group (lower : Level) : Parser Expr := do
  let e ← do
    if ← queryAhead then pure (Expr.query .scalar [] (← lower.query))
    else
      match ← list (lower.expr 0) with
      | [e] => pure (.apply .nested [e])
      | es => pure (.apply .tuple es)
  mark ")"
  if ← mark? "." then
    match ← next with
    | .word text _ quoted => return .apply (.member (Name.ofWord text quoted)) [e]
    | _ => fail
  else return e

/-- What a word begins. -/
def fromWord (lower : Level) (operand : Parser Expr) (text key : String) (quoted : Bool) :
    Parser Expr := do
  let self : Name := Name.ofWord text quoted
  match key with
  | "TRUE" | "FALSE" | "NULL" => return .literal text
  | "CURRENT_CATALOG" | "CURRENT_USER" | "SESSION_USER" | "USER" => return .call [self] none []
  | "CURRENT_TIMESTAMP" | "CURRENT_TIME" | "CURRENT_DATE" | "LOCALTIME" | "LOCALTIMESTAMP" =>
    if ← mark? "(" then
      let (args, clauses) ← arguments lower
      return .call [self] (some args) clauses
    else return .call [self] none []
  | "CASE" => caseExpression lower
  | "CONVERT" => conversion lower
  | "CAST" | "TRY_CAST" | "SAFE_CAST" => cast lower
  | "EXISTS" => existence lower false
  | "EXTRACT" => extraction lower
  | "CEIL" => rounding lower .ceil
  | "FLOOR" => rounding lower .floor
  | "POSITION" =>
    if ← markAhead "(" then
      match ← attempt (position lower) with
      | some e => return e
      | none => call lower operand [self]
    else plainWord lower operand self
  | "SUBSTRING" => substring lower
  | "OVERLAY" => overlay lower
  | "TRIM" => trimming lower
  | "INTERVAL" => interval operand
  | "ARRAY" =>
    if ← mark? "[" then arrayItems lower
    else if ← mark? "(" then
      let q ← lower.query
      mark ")"
      return .query .array [] q
    else plainWord lower operand self
  | "NOT" =>
    if ← keyword? "EXISTS" then existence lower true
    else return .apply (.unary "NOT") [← lower.expr 30]
  | _ => plainWord lower operand self

/-- What a token other than a word begins. -/
def fromToken (lower : Level) (token : Token) : Parser Expr := do
  match token with
  | .number text _ => return .literal text
  | .string _ text => return .literal text
  | .placeholder text => return .literal text
  | .mark "[" => arrayItems lower
  | .mark "(" => group lower
  | .mark ":" => placeholderName
  | .mark text =>
    if text = "-" ∨ text = "+" then return .apply (.unary text) [← lower.expr 90]
    else if ["!!", "|/", "||/", "@", "~"].contains text then
      return .apply (.unary text) [← lower.expr 80]
    else fail
  | _ => fail

/-- A literal after the name of its type. -/
def typedLiteral (operand : Parser Expr) : Parser Expr := do
  match ← typeName with
  | .interval => interval operand
  | .custom => fail
  | .known => return .apply (.typed (← textLiteral)) []

/-- An operand. The fuel bounds how many intervals begin with one another. -/
def operandWithin (lower : Level) : Nat → Parser Expr
  | 0 => fail
  | fuel + 1 => do
    let inner := operandWithin lower fuel
    match ← attempt (typedLiteral inner) with
    | some e => return e
    | none =>
      let e ← match ← next with
        | .word text key quoted => fromWord lower inner text key quoted
        | token => fromToken lower token
      if ← keyword? "COLLATE" then return .apply (.collate (← path)) [e] else return e

def operand (lower : Level) : Parser Expr := do
  operandWithin lower ((← get).length + 1)

end Clickstream.Sql.Parser
