/-! Trees of SQL queries and expressions. Which operands of an expression belong to its value, and
which only steer it, is part of the tree: the first are its plain operands. -/
namespace Clickstream.Sql

/-- One part of a name, with the quote it was written in, if any. -/
structure Name where
  text : String
  quote : Option Char := none
  deriving DecidableEq

/-- The name that a word gives, in double quotes or in none. -/
def Name.ofWord (text : String) (quoted : Bool) : Name := ⟨text, if quoted then some '"' else none⟩

/-- The ways to combine operands into an expression. -/
inductive Form where
  | nested
  | tuple
  | unary (operator : String)
  | factorial
  | binary (operator : String)
  | quantified (operator quantifier : String)
  /-- A test such as `IS NOT NULL`. -/
  | is (test : String)
  | distinctFrom (negated : Bool)
  | like (negated caseless : Bool) (escape : Option String)
  | similar (negated : Bool) (escape : Option String)
  | regexp (negated : Bool)
  | between (negated : Bool)
  | inList (negated : Bool)
  | inUnnest (negated : Bool)
  /-- An operand if there is one, the default if there is one, then conditions and results. -/
  | case (operand default : Bool)
  | cast
  | convert
  | extract
  | substring
  | position
  | overlay
  | trim (side : Option String)
  | ceil
  | floor
  | atTimeZone
  | collate (collation : List Name)
  | array
  | subscript
  | member (field : Name)
  | interval
  /-- A literal after the name of its type. -/
  | typed (value : String)
  | namedArgument (name : Name)
  | groupingSets
  | cube
  | rollup
  deriving DecidableEq

/-- How many of an expression's operands a check of its value looks into. -/
inductive Reach where
  | all
  | first
  | nothing
  deriving DecidableEq

/-- The operands that the checks of catalog expressions look into. -/
def Form.reach : Form → Reach
  | nested | tuple | unary _ | factorial | binary _ | is _ | distinctFrom _ | like .. | between _
  | inList _ | case .. | cast | extract | namedArgument _ => .all
  | substring => .first
  | _ => .nothing

/-- The ways to use a query as an expression. -/
inductive QueryForm where
  | scalar
  | exists (negated : Bool)
  /-- The expression's operand is looked for in the query's rows. -/
  | inQuery (negated : Bool)
  | array
  deriving DecidableEq

/-- The clauses of queries, of selects and of function calls. -/
inductive ClauseKind where
  /-- All arguments of a call count, or only distinct ones. -/
  | allArguments
  | distinctArguments
  | distinctOn
  | top
  | into
  | lateralView
  | where
  | groupBy
  | groupByAll
  | clusterBy
  | distributeBy
  | sortBy
  | having
  | window
  | qualify
  | orderBy
  | limit
  | offset
  | fetch
  | forUpdate
  | forFormat
  | onOverflow
  | withinGroup
  | filter
  | nullTreatment
  | windowed
  deriving DecidableEq

inductive Quantifier where
  | all
  | distinct
  deriving DecidableEq

inductive SetOperator where
  | union
  | except
  | intersect
  deriving DecidableEq

mutual

inductive Expr where
  /-- A column, or a word that stands for one. -/
  | column (path : List Name)
  | literal (text : String)
  /-- A star, after a table's name if there is one. -/
  | star (path : List Name)
  | apply (form : Form) (operands : List Expr)
  /-- A function call; some functions are called without parentheses. -/
  | call (function : List Name) (arguments : Option (List Expr)) (clauses : List Clause)
  | query (form : QueryForm) (operands : List Expr) (q : Query)

inductive Clause where
  | clause (kind : ClauseKind) (operands : List Expr)

inductive Query where
  | query (tables : List Cte) (body : Body) (clauses : List Clause)

/-- A named query in front of another. -/
inductive Cte where
  | cte (name : Name) (columns : List Name) (q : Query)

inductive Body where
  | select (s : Select)
  | nested (q : Query)
  | values (rows : List Expr)
  | table
  /-- An insertion or an update, of which nothing is kept. -/
  | modification
  | combined (operator : SetOperator) (left right : Body)

inductive Select where
  | select (quantifier : Quantifier) (items : List Item) (sources : List Source)
      (clauses : List Clause)

inductive Item where
  | plain (e : Expr)
  | aliased (e : Expr) (aliasName : Name)
  | star (path : List Name)

/-- What a `FROM` clause reads. -/
inductive Source where
  | table (path : List Name) (aliasName : Option Name)
  /-- A function's rows, or an array's. -/
  | function (path : List Name) (arguments : List Expr) (aliasName : Option Name)
  | derived (q : Query) (aliasName : Option Name)
  | nested (source : Source) (aliasName : Option Name)
  /-- Rows turned into columns, or columns into rows. -/
  | turned (source : Source) (aliasName : Option Name)
  | join (left right : Source) (conditions : List Expr)

end

instance : Inhabited Expr := ⟨.literal ""⟩

/-- A statement; of all but queries only their presence is kept. -/
inductive Statement where
  | query (q : Query)
  /-- Of another statement, or of a table. -/
  | explanation
  | other

end Clickstream.Sql
