import Clickstream.Catalog.Basic
import Clickstream.Sql.Grammar.Statement
import Clickstream.Sql.Inspection

/-! Which expressions are fit for a catalog: those that read as the one item of a plain select, with
nothing after it, that read no relation, and that aggregate if and only if they are measures. -/
namespace Clickstream

open Sql

/-- The one expression of a select that is made of this text, if that is all it is. -/
def bareExpression (text : String) : Except Misfit Expr := do
  match Statement.readAll ("SELECT " ++ text) with
  | none => .error .unreadable
  | some [.query (.query tables body clauses)] =>
    if !tables.isEmpty || !clauses.isEmpty then .error .trailingClauses
    else match body with
      | .select (.select quantifier items sources selectClauses) =>
        match items with
        | [item] =>
          if quantifier = .distinct || !sources.isEmpty || !selectClauses.isEmpty then
            .error .readsRelation
          else match item with
            | .plain e => if e.readsRelation then .error .readsRelation else .ok e
            | _ => .error .notBare
        | _ => .error .notOneProjection
      | _ => .error .notPlainSelect
  | some _ => .error .notOneProjection

/-- What makes an expression unfit for entries of a kind, if anything. -/
def Misfit.find? (kind : Kind) (text : String) : Option Misfit :=
  match bareExpression text, kind with
  | .error misfit, _ => some misfit
  | .ok e, .dimension => if e.aggregates then some .aggregates else none
  | .ok e, .measure => if e.aggregates then none else some .noAggregate

namespace Catalog

/-- Checks entries of one kind in order; `seen` holds the keys of those before them. -/
def validateEntries (kind : Kind) : List String → List Entry → Except CatalogError Unit
  | _, [] => .ok ()
  | seen, e :: rest =>
    if seen.contains e.key then .error (.duplicateKey e.key)
    else match Misfit.find? kind e.expression with
      | some misfit => .error (.invalidExpression e.key misfit)
      | none => validateEntries kind (e.key :: seen) rest

/-- Keys must differ within a kind, and every expression must be fit. Dimensions come first. -/
def validate (c : Catalog) : Except CatalogError Unit := do
  validateEntries .dimension [] c.dimensions
  validateEntries .measure [] c.measures

end Catalog
end Clickstream
