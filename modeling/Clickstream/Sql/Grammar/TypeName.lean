import Clickstream.Sql.Parser

/-! The grammar of type names. Of a type only its sort is kept: what may follow depends on it. -/
namespace Clickstream.Sql

inductive TypeSort where
  | known
  | interval
  /-- Any other name; it may be no type at all. -/
  | custom
  deriving DecidableEq

namespace Parser

/-- What may follow the name of a type. -/
inductive TypeShape where
  | plain
  /-- A precision in parentheses. -/
  | precision
  /-- A precision, then the word `UNSIGNED`. -/
  | integer
  /-- A length with a unit. -/
  | length
  /-- A precision and a scale. -/
  | exact
  /-- A precision, then a time zone. -/
  | zoned
  /-- A list of strings. -/
  | strings

/-- The names of types with what may follow them. -/
def typeShapes : List (String × TypeShape) :=
  ["BOOLEAN", "BOOL", "REAL", "FLOAT4", "FLOAT32", "FLOAT64", "FLOAT8", "INT16", "INT32", "INT64",
   "INT128", "INT256", "UINT8", "UINT16", "UINT32", "UINT64", "UINT128", "UINT256", "UUID", "DATE",
   "DATE32", "JSON", "JSONB", "REGCLASS", "TEXT", "BYTEA", "TRIGGER"].map (·, .plain) ++
  ["FLOAT", "CLOB", "BINARY", "VARBINARY", "BLOB", "BYTES", "DATETIME", "TIMESTAMPTZ", "TIMETZ",
   "STRING"].map (·, .precision) ++
  ["TINYINT", "INT2", "SMALLINT", "MEDIUMINT", "INT", "INT4", "INT8", "INTEGER", "BIGINT"].map
    (·, .integer) ++
  ["VARCHAR", "NVARCHAR"].map (·, .length) ++
  ["NUMERIC", "DECIMAL", "DEC", "BIGNUMERIC", "BIGDECIMAL"].map (·, .exact) ++
  ["TIMESTAMP", "TIME"].map (·, .zoned) ++
  ["ENUM", "SET"].map (·, .strings)

/-- A number in parentheses, if one follows. -/
def precision? : Parser Unit := do
  if ← markAhead "(" then let _ ← parens whole

/-- One or two numbers in parentheses, if they follow. -/
def precisionScale? : Parser Unit := do
  if ← markAhead "(" then
    parens do
      let _ ← whole
      if ← mark? "," then let _ ← whole

/-- A length in parentheses, if one follows. -/
def length? : Parser Unit := do
  if ← markAhead "(" then
    parens do
      unless ← keyword? "MAX" do
        let _ ← whole
        let _ ← oneOf? ["CHARACTERS", "OCTETS"]

/-- A clause on the time zone, if one follows. -/
def timeZone? : Parser Unit := do
  if (← oneOf? ["WITH", "WITHOUT"]).isSome then keywords ["TIME", "ZONE"]

def singleString : Parser String := do
  match ← next with
  | .string .single text => return text
  | _ => fail

def TypeShape.rest : TypeShape → Parser Unit
  | .plain => return ()
  | .precision => precision?
  | .integer => do
    precision?
    let _ ← keyword? "UNSIGNED"
  | .length => length?
  | .exact => precisionScale?
  | .zoned => do
    precision?
    timeZone?
  | .strings => do let _ ← parens (list singleString)

/-- What follows `CHAR` or `CHARACTER`. -/
def characterType : Parser Unit := do
  if ← keyword? "VARYING" then length?
  else if ← keywords? ["LARGE", "OBJECT"] then precision?
  else length?

/-- The modifiers of a custom type; commas between them do not matter. -/
def modifiers : Nat → Parser Unit
  | 0 => fail
  | fuel + 1 => do
    match ← next with
    | .mark ")" => return ()
    | .mark "," => modifiers fuel
    | .word .. => modifiers fuel
    | .number .. => modifiers fuel
    | .string .single _ => modifiers fuel
    | _ => fail

/-- The brackets of an array type. -/
def brackets : Parser Bool := do
  let found ← many do
    if ← mark? "[" then
      let _ ← attempt whole
      mark "]"
      return some ()
    else return none
  return !found.isEmpty

/-- A type, and whether the mark that closed it closes one more angle bracket. -/
def nestedType : Nat → Parser (TypeSort × Bool)
  | 0 => fail
  | fuel + 1 => do
    let key ← match ← peek? with
      | some (.word _ key _) => pure key
      | _ => fail
    let (sort, extra) ← match typeShapes.lookup key, key with
      | some shape, _ => do
        let _ ← next
        shape.rest
        pure (TypeSort.known, false)
      | none, "CHAR" => do let _ ← next; characterType; pure (.known, false)
      | none, "CHARACTER" => do let _ ← next; characterType; pure (.known, false)
      | none, "DOUBLE" => do
        let _ ← next
        let _ ← keyword? "PRECISION"
        pure (.known, false)
      | none, "FIXEDSTRING" => do
        let _ ← next
        let _ ← parens whole
        pure (.known, false)
      | none, "DATETIME64" => do
        let _ ← next
        parens do
          let _ ← whole
          if ← mark? "," then let _ ← textLiteral
        pure (.known, false)
      | none, "INTERVAL" => do let _ ← next; pure (.interval, false)
      | none, "ARRAY" => do
        let _ ← next
        mark "<"
        let (_, closed) ← nestedType fuel
        if closed then pure (.known, false)
        else if ← mark? ">" then pure (.known, false)
        else
          mark ">>"
          pure (.known, true)
      | none, _ => do
        let _ ← path
        if ← mark? "(" then modifiers ((← get).length + 1)
        pure (.custom, false)
    return (if ← brackets then .known else sort, extra)

/-- A type. -/
def typeName : Parser TypeSort := do
  let (sort, extra) ← nestedType ((← get).length + 1)
  if extra then fail else return sort

end Parser
end Clickstream.Sql
