import Clickstream.Catalog.Basic

/-! Queries over the events relation: which dimensions and measures, and how many rows. -/
namespace Clickstream

/-- A query. A limit is positive; without one all rows are wanted. -/
structure Query where
  dimensions : List Entry := []
  measures : List Entry := []
  limit : Option Nat := none
  deriving DecidableEq

inductive QueryError where
  | empty
  /-- The query has not the shape that a chart needs. -/
  | malformedShape (reason : String)
  deriving DecidableEq

namespace QueryError

def message : QueryError → String
  | .empty => "Query specification has no dimensions and no measures"
  | .malformedShape reason => "Result malformed for this data transformation: " ++ reason

/-- The error as programs print it when they fail. -/
def dump : QueryError → String
  | .empty => "Empty"
  | .malformedShape reason => "MalformedShape(" ++ Text.quoted reason ++ ")"

end QueryError

namespace Query

/-- One part of a query, set anew. -/
inductive Setting where
  | dimensions (entries : List Entry)
  | measures (entries : List Entry)
  /-- Zero stands for no limit. -/
  | limit (rows : Nat)

/-- The query with one part replaced. -/
def set (q : Query) : Setting → Query
  | .dimensions entries => { q with dimensions := entries }
  | .measures entries => { q with measures := entries }
  | .limit rows => { q with limit := if rows = 0 then none else some rows }

/-- The query that a list of settings leaves, from an empty one. -/
def ofSettings (settings : List Setting) : Query := settings.foldl set {}

def isEmpty (q : Query) : Bool := q.dimensions.isEmpty && q.measures.isEmpty

/-- The relation that all queries read. -/
def source : String := "events"

/-- The statement of a query that is not empty: distinct rows when nothing is measured, groups by
the position of the dimensions when something is, and the limit. -/
def statement (q : Query) : String :=
  let columns := (q.dimensions ++ q.measures).map Entry.expression
  let select := if q.measures.isEmpty then "SELECT DISTINCT " else "SELECT "
  let ordinals := (List.range' 1 q.dimensions.length).map fun i => toString i
  let groups :=
    if q.dimensions.isEmpty || q.measures.isEmpty then ""
    else " GROUP BY " ++ ", ".intercalate ordinals
  let limit :=
    match q.limit with
    | none => ""
    | some rows => " LIMIT " ++ toString rows
  select ++ ", ".intercalate columns ++ " FROM " ++ source ++ groups ++ limit

end Query

end Clickstream
