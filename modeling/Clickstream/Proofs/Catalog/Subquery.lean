import Clickstream.Proofs.Catalog.Validation

/-! Which subqueries the check of catalog expressions misses. The check is told here from the whole
syntax: every operand, and every clause of a call, can hold a query. -/
namespace Clickstream
open Sql

namespace Sql.Expr

mutual

/-- A query stands anywhere in the expression. -/
def containsQuery : Expr → Bool
  | .column _ => false
  | .literal _ => false
  | .star _ => false
  | .apply _ operands => anyContains operands
  | .call _ none clauses => clausesContain clauses
  | .call _ (some arguments) clauses => anyContains arguments || clausesContain clauses
  | .query .. => true

def anyContains : List Expr → Bool
  | [] => false
  | e :: es => containsQuery e || anyContains es

def clausesContain : List Clause → Bool
  | [] => false
  | .clause _ operands :: clauses => anyContains operands || clausesContain clauses

end

mutual

/-- A query stands where the check does not look: in an operand of a form that is listed here, in a
later operand of `SUBSTRING`, or in a clause of a call. -/
def hidesQuery : Expr → Bool
  | .column _ => false
  | .literal _ => false
  | .star _ => false
  | .query .. => false
  | .call _ none clauses => clausesContain clauses
  | .call _ (some arguments) clauses => anyHides arguments || clausesContain clauses
  | .apply form operands =>
    match form with
    | .ceil | .floor | .trim _ | .position | .overlay | .convert => anyContains operands
    | .atTimeZone | .collate _ | .array | .subscript | .member _ => anyContains operands
    | .quantified .. | .similar .. | .regexp _ | .inUnnest _ => anyContains operands
    | .interval | .typed _ | .groupingSets | .cube | .rollup => anyContains operands
    | .substring => laterHide operands
    | _ => anyHides operands

def anyHides : List Expr → Bool
  | [] => false
  | e :: es => hidesQuery e || anyHides es

/-- Only the first operand is looked into. -/
def laterHide : List Expr → Bool
  | [] => false
  | e :: es => hidesQuery e || anyContains es

end

mutual

/-- Every query in an expression is seen by the check or hidden from it. -/
theorem containsQuery_eq : ∀ e : Expr, e.containsQuery = (e.readsRelation || e.hidesQuery)
  | .column _ => rfl
  | .literal _ => rfl
  | .star _ => rfl
  | .query .. => by simp only [containsQuery, readsRelation, Bool.true_or]
  | .call _ none clauses => by simp only [containsQuery, readsRelation, hidesQuery, Bool.false_or]
  | .call _ (some arguments) clauses => by
    have inside := anyContains_eq arguments
    simp only [containsQuery, readsRelation, hidesQuery, inside, Bool.or_assoc]
  | .apply form operands => by
    have inside := anyContains_eq operands
    have first := firstContains_eq operands
    cases form <;>
      simp only [containsQuery, readsRelation, hidesQuery, Form.reach, Bool.false_or] <;>
      first
        | exact inside
        | exact first

theorem anyContains_eq : ∀ es : List Expr, anyContains es = (anyReads es || anyHides es)
  | [] => rfl
  | e :: es => by
    have head := containsQuery_eq e
    have tail := anyContains_eq es
    simp only [anyContains, anyReads, anyHides, head, tail]
    cases e.readsRelation <;> cases anyReads es <;> simp

theorem firstContains_eq : ∀ es : List Expr, anyContains es = (firstReads es || laterHide es)
  | [] => rfl
  | e :: es => by
    have head := containsQuery_eq e
    simp only [anyContains, firstReads, laterHide, head, Bool.or_assoc]

end

end Sql.Expr

/-- An accepted expression contains a query exactly if it hides one: the check misses a query just
in the places where it does not look, and an expression without such places reads no relation. -/
theorem accepted_query_hidden (kind : Kind) (text : String)
    (accepted : Misfit.find? kind text = none) :
    ∃ e, bareExpression text = .ok e ∧ (e.containsQuery = true ↔ e.hidesQuery = true) := by
  obtain ⟨e, bare, -⟩ := Misfit.find?_none.mp accepted
  have blind : e.readsRelation = false := (bareExpression_ok.mp bare).2
  refine ⟨e, bare, ?_⟩
  rw [Expr.containsQuery_eq, blind, Bool.false_or]

/-- A query that is rounded is accepted. -/
theorem accepted_query_hidden_rounded :
    ∃ e, bareExpression "CEIL((SELECT 1))" = .ok e ∧ e.containsQuery = true := by
  obtain ⟨e, bare, hidden⟩ :=
    accepted_query_hidden .dimension "CEIL((SELECT 1))" (by decide +kernel)
  have hides : (bareExpression "CEIL((SELECT 1))").toOption.map Expr.hidesQuery = some true := by
    decide +kernel
  rw [bare] at hides
  exact ⟨e, bare, hidden.mpr (Option.some.inj hides)⟩

end Clickstream
