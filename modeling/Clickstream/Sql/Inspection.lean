import Clickstream.Sql.Tree
import Clickstream.Text.Uppercase

/-! What an expression's value comes from: relations, aggregates, or neither. Only the operands
within reach are inspected, and neither the clauses of a function call nor a subquery's inside. -/
namespace Clickstream.Sql

/-- Functions that make one value of many rows. -/
def aggregateNames : List String :=
  ["COUNT", "SUM", "AVG", "MIN", "MAX", "MEDIAN", "MODE", "STDDEV", "STDDEV_POP", "STDDEV_SAMP",
   "VARIANCE", "VAR_POP", "VAR_SAMP", "ARRAY_AGG", "STRING_AGG", "BOOL_AND", "BOOL_OR", "EVERY",
   "PERCENTILE_CONT", "PERCENTILE_DISC"]

/-- The name of an aggregate function: a single part, not in quotes, in any case. -/
def isAggregate : List Name → Bool
  | [name] => name.quote.isNone && aggregateNames.contains (Text.upper name.text)
  | _ => false

namespace Expr

mutual

/-- A query stands in the expression. -/
def readsRelation : Expr → Bool
  | .query .. => true
  | .apply form operands =>
    match form.reach with
    | .all => anyReads operands
    | .first => firstReads operands
    | .nothing => false
  | .call _ (some arguments) _ => anyReads arguments
  | _ => false

def anyReads : List Expr → Bool
  | [] => false
  | e :: es => readsRelation e || anyReads es

def firstReads : List Expr → Bool
  | [] => false
  | e :: _ => readsRelation e

end

mutual

/-- A call of an aggregate function stands in the expression. -/
def aggregates : Expr → Bool
  | .apply form operands =>
    match form.reach with
    | .all => anyAggregates operands
    | .first => firstAggregates operands
    | .nothing => false
  | .call function arguments _ =>
    isAggregate function ||
      match arguments with
      | some arguments => anyAggregates arguments
      | none => false
  | .query _ operands _ => anyAggregates operands
  | _ => false

def anyAggregates : List Expr → Bool
  | [] => false
  | e :: es => aggregates e || anyAggregates es

def firstAggregates : List Expr → Bool
  | [] => false
  | e :: _ => aggregates e

end

end Expr
end Clickstream.Sql
