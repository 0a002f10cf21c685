import Clickstream.Text.Blank
import Clickstream.Text.Quoted
import Clickstream.Json.Tree

/-! The catalog: the dimensions and measures that reports may use, each a labelled SQL expression
under a key. What makes an expression fit for a catalog is said elsewhere. -/
namespace Clickstream

/-- The two roles of a catalog entry. -/
inductive Kind where
  | dimension
  | measure
  deriving DecidableEq

/-- A catalog entry: a dimension or a measure, by the list it stands in. -/
structure Entry where
  key : String
  label : String
  expression : String
  deriving DecidableEq

/-- Entries are published without their expressions. -/
def Entry.toTree (e : Entry) : Json.Tree :=
  .record [("key", .text e.key), ("label", .text e.label)]

/-- What is wrong with an expression. -/
inductive Misfit where
  | unreadable
  | notOneProjection
  | trailingClauses
  | notPlainSelect
  | readsRelation
  | notBare
  | aggregates
  | noAggregate
  deriving DecidableEq

def Misfit.message : Misfit → String
  | .unreadable => "sql parser error"
  | .notOneProjection => "expected exactly one projection"
  | .trailingClauses => "unexpected clauses after projection"
  | .notPlainSelect => "expected a plain SELECT"
  | .readsRelation => "expression must not read from a relation"
  | .notBare => "aliases and wildcards are not allowed"
  | .aggregates => "dimension expressions must not aggregate"
  | .noAggregate => "measure expressions must contain an aggregate function"

inductive CatalogError where
  | notFound (kind : Kind) (key : String)
  | duplicateKey (key : String)
  | invalidExpression (key : String) (reason : Misfit)
  deriving DecidableEq

namespace CatalogError

def message : CatalogError → String
  | .notFound .dimension key => "Dimension not found: " ++ key
  | .notFound .measure key => "Measure not found: " ++ key
  | .duplicateKey key => "Duplicate catalog key: " ++ key
  | .invalidExpression key reason => "Invalid expression for " ++ key ++ ": " ++ reason.message

/-- The error as programs print it when they fail. -/
def dump : CatalogError → String
  | .notFound .dimension key => "DimensionNotFound(" ++ Text.quoted key ++ ")"
  | .notFound .measure key => "MeasureNotFound(" ++ Text.quoted key ++ ")"
  | .duplicateKey key => "DuplicateKey(" ++ Text.quoted key ++ ")"
  | .invalidExpression key reason =>
    "InvalidExpression \x7b key: " ++ Text.quoted key ++ ", reason: " ++
      Text.quoted reason.message ++ " \x7d"

end CatalogError

structure Catalog where
  dimensions : List Entry
  measures : List Entry

namespace Catalog

/-- The entries of one kind. -/
def entries (c : Catalog) : Kind → List Entry
  | .dimension => c.dimensions
  | .measure => c.measures

/-- The first entry with this key. -/
def lookup (c : Catalog) (kind : Kind) (key : String) : Except CatalogError Entry :=
  match (c.entries kind).find? fun e => e.key == key with
  | some e => .ok e
  | none => .error (.notFound kind key)

/-- The keys in a comma-separated list; blanks around a key and empty keys do not count. -/
def splitKeys (keys : String) : List String :=
  ((Text.splitAt ',' keys).map Text.trim).filter fun key => key ≠ ""

/-- The entries of a comma-separated list of keys; the first unknown key is the error. -/
def resolve (c : Catalog) (kind : Kind) (keys : String) : Except CatalogError (List Entry) :=
  (splitKeys keys).mapM (c.lookup kind)

/-- The dimensions and measures of the events relation. -/
def standard : Catalog where
  dimensions := [
    ⟨"event_name", "Event Name", "name"⟩,
    ⟨"date", "Date", "TO_CHAR(timestamp, 'YYYY-MM-DD')"⟩,
    ⟨"month", "Month", "TO_CHAR(timestamp, 'YYYY-MM')"⟩,
    ⟨"page_location", "Page Location", "page_location"⟩,
    ⟨"page_title", "Page Title", "page_title"⟩,
    ⟨"page_referrer", "Page Referrer", "page_referrer"⟩,
    ⟨"screen_resolution", "Screen Resolution", "screen_resolution"⟩]
  measures := [
    ⟨"event_count", "Event Count", "COUNT(*)"⟩,
    ⟨"event_value", "Event Value", "ROUND(SUM(value), 2)"⟩,
    ⟨"users", "Users", "COUNT(DISTINCT client_id)"⟩,
    ⟨"sessions", "Sessions", "COUNT(DISTINCT session_id)"⟩]

/-- The catalog as it is published: the dimensions, then the measures. -/
def toTree (c : Catalog) : Json.Tree :=
  .list [.list (c.dimensions.map Entry.toTree), .list (c.measures.map Entry.toTree)]

end Catalog
end Clickstream
