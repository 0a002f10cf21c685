import Clickstream.Proofs.Catalog.Subquery

/-! How expressions are told apart by their aggregates. An aggregate is told here from the whole syntax,
at any depth and in any operand; the check looks into some operands only, so it takes an expression for
one without aggregates if all that it has are where the check does not look. -/
namespace Clickstream
open Sql

namespace Sql

def Clause.operands : Clause → List Expr
  | .clause _ operands => operands

namespace Expr

/-- The operands of an expression in all positions. Those of a call stand among its arguments and in its
clauses; what is inside a query is not the expression's own. -/
def operands : Expr → List Expr
  | .column _ => []
  | .literal _ => []
  | .star _ => []
  | .apply _ operands => operands
  | .call _ arguments clauses => arguments.getD [] ++ clauses.flatMap Clause.operands
  | .query _ operands _ => operands

/-- The operands that the check looks into. -/
def reached : Expr → List Expr
  | .column _ => []
  | .literal _ => []
  | .star _ => []
  | .apply form operands =>
    match form.reach with
    | .all => operands
    | .first => operands.take 1
    | .nothing => []
  | .call _ arguments _ => arguments.getD []
  | .query _ operands _ => operands

/-- The operands that the check passes over: those of the forms that are listed here, the later ones of
`SUBSTRING`, and those in the clauses of calls. -/
def passedOver : Expr → List Expr
  | .column _ => []
  | .literal _ => []
  | .star _ => []
  | .apply form operands =>
    match form with
    | .ceil | .floor | .trim _ | .position | .overlay | .convert => operands
    | .atTimeZone | .collate _ | .array | .subscript | .member _ => operands
    | .quantified .. | .similar .. | .regexp _ | .inUnnest _ => operands
    | .interval | .typed _ | .groupingSets | .cube | .rollup => operands
    | .substring => operands.drop 1
    | _ => []
  | .call _ _ clauses => clauses.flatMap Clause.operands
  | .query .. => []

theorem operands_eq (e : Expr) : e.operands = e.reached ++ e.passedOver := by
  cases e with
  | column path => rfl
  | literal text => rfl
  | star path => rfl
  | call function arguments clauses => rfl
  | query form operands q => exact (List.append_nil _).symm
  | apply form operands =>
    cases form with
    | substring => exact (List.take_append_drop 1 operands).symm
    | _ => first
      | exact (List.append_nil _).symm
      | exact (List.nil_append _).symm

/-- An expression is part of another: it is that one, or part of one of its operands. -/
inductive PartOf (operands : Expr → List Expr) (part : Expr) : Expr → Prop
  | here : PartOf operands part part
  | inside {e operand : Expr} (among : operand ∈ operands e) (deeper : PartOf operands part operand) :
    PartOf operands part e

namespace PartOf
variable {sub sub' : Expr → List Expr} {part middle e : Expr}

theorem trans (inner : PartOf sub part middle) (outer : PartOf sub middle e) : PartOf sub part e := by
  induction outer with
  | here => exact inner
  | inside among _ ih => exact .inside among ih

/-- Where more operands are looked into there are more parts. -/
theorem mono (more : ∀ e, sub e ⊆ sub' e) (within : PartOf sub part e) : PartOf sub' part e := by
  induction within with
  | here => exact .here
  | inside among _ ih => exact .inside (more _ among) ih

end PartOf

/-- The expression calls an aggregate function. -/
def callsAggregate : Expr → Bool
  | .call function _ _ => isAggregate function
  | _ => false

variable (e : Expr)

/-- An aggregate is called at some depth, in whatever operand. -/
def HasAggregate : Prop := ∃ part, PartOf operands part e ∧ part.callsAggregate = true

/-- An aggregate is called where the check gets to. -/
def ShowsAggregate : Prop := ∃ part, PartOf reached part e ∧ part.callsAggregate = true

/-- An aggregate is called in an operand that the check gets to and passes over. -/
def HidesAggregate : Prop :=
  ∃ part, PartOf reached part e ∧ ∃ operand ∈ part.passedOver, operand.HasAggregate

theorem reached_subset : e.reached ⊆ e.operands := by
  rw [operands_eq]
  exact List.subset_append_left _ _

theorem passedOver_subset : e.passedOver ⊆ e.operands := by
  rw [operands_eq]
  exact List.subset_append_right _ _

variable {e}

/-- On the way down to an aggregate either every operand is looked into, or there is a first one that is
passed over. -/
theorem hasAggregate_iff : e.HasAggregate ↔ e.ShowsAggregate ∨ e.HidesAggregate := by
  constructor
  · rintro ⟨part, within, calls⟩
    induction within with
    | here => exact .inl ⟨part, .here, calls⟩
    | @inside e operand among deeper ih =>
      rw [operands_eq, List.mem_append] at among
      rcases among with looked | passed
      · rcases ih with ⟨part, within, calls⟩ | ⟨middle, within, passed⟩
        · exact .inl ⟨part, .inside looked within, calls⟩
        · exact .inr ⟨middle, .inside looked within, passed⟩
      · exact .inr ⟨e, .here, operand, passed, part, deeper, calls⟩
  · rintro (⟨part, within, calls⟩ | ⟨middle, within, operand, passed, part, deeper, calls⟩)
    · exact ⟨part, within.mono reached_subset, calls⟩
    · have below : PartOf operands part middle := .inside (passedOver_subset _ passed) deeper
      exact ⟨part, below.trans (within.mono reached_subset), calls⟩

theorem anyAggregates_eq (es : List Expr) : anyAggregates es = es.any aggregates := by
  induction es with
  | nil => rfl
  | cons e es ih => rw [anyAggregates, List.any_cons, ih]

/-- The check is one step on the expression itself, and the check of the operands that it looks into. -/
theorem aggregates_eq (e : Expr) : e.aggregates = (e.callsAggregate || e.reached.any aggregates) := by
  cases e with
  | column path => rfl
  | literal text => rfl
  | star path => rfl
  | query form operands q => rw [aggregates, anyAggregates_eq]; rfl
  | call function arguments clauses =>
    cases arguments with
    | none => rw [aggregates]; rfl
    | some arguments => simp only [aggregates, anyAggregates_eq]; rfl
  | apply form operands =>
    simp only [aggregates, callsAggregate, reached, Bool.false_or]
    cases form.reach with
    | all => exact anyAggregates_eq operands
    | nothing => rfl
    | first =>
      cases operands with
      | nil => rfl
      | cons e es => simp [firstAggregates]

private theorem sizeOf_reached {operand : Expr} (looked : operand ∈ e.reached) :
    sizeOf operand < sizeOf e := by
  cases e with
  | column path => cases looked
  | literal text => cases looked
  | star path => cases looked
  | query form operands q =>
    have among : operand ∈ operands := looked
    have := List.sizeOf_lt_of_mem among
    rw [Expr.query.sizeOf_spec]
    omega
  | call function arguments clauses =>
    cases arguments with
    | none => cases looked
    | some arguments =>
      have among : operand ∈ arguments := looked
      have := List.sizeOf_lt_of_mem among
      rw [Expr.call.sizeOf_spec, Option.some.sizeOf_spec]
      omega
  | apply form operands =>
    have among : operand ∈ operands := reached_subset _ looked
    have := List.sizeOf_lt_of_mem among
    rw [Expr.apply.sizeOf_spec]
    omega

private theorem shows_of_aggregates (e : Expr) (aggregating : e.aggregates = true) :
    e.ShowsAggregate := by
  rw [aggregates_eq, Bool.or_eq_true, List.any_eq_true] at aggregating
  rcases aggregating with calls | ⟨operand, looked, aggregating⟩
  · exact ⟨e, .here, calls⟩
  · obtain ⟨part, within, calls⟩ := shows_of_aggregates operand aggregating
    exact ⟨part, .inside looked within, calls⟩
termination_by sizeOf e
decreasing_by exact sizeOf_reached looked

/-- The check finds the aggregates that it gets to, at whatever depth. -/
theorem aggregates_iff : e.aggregates = true ↔ e.ShowsAggregate := by
  constructor
  · exact shows_of_aggregates e
  · rintro ⟨part, within, calls⟩
    induction within with
    | here => rw [aggregates_eq, calls, Bool.true_or]
    | inside looked _ ih =>
      rw [aggregates_eq, Bool.or_eq_true, List.any_eq_true]
      exact .inr ⟨_, looked, ih⟩

end Expr
end Sql

/-- A text of one bare expression without a query is fit for entries of exactly one kind: for a measure if
an aggregate shows in the expression, and else for a dimension. An aggregate stands anywhere in the
expression if one shows or one is hidden, so the kind is the right one unless aggregates are hidden and
none shows. -/
theorem aggregates_classified {text : String} {quantifier : Quantifier} {e : Expr}
    (all_ : quantifier ≠ .distinct)
    (read : Statement.readAll ("SELECT " ++ text) =
      some [.query (.query [] (.select (.select quantifier [.plain e] [] [])) [])])
    (queryless : e.containsQuery = false) :
    (Misfit.find? .measure text = none ↔ e.ShowsAggregate) ∧
    (Misfit.find? .dimension text = none ↔ ¬ e.ShowsAggregate) ∧
    (e.HasAggregate ↔ e.ShowsAggregate ∨ e.HidesAggregate) ∧
    ((Misfit.find? .measure text = none ↔ e.HasAggregate) ∧
        (Misfit.find? .dimension text = none ↔ ¬ e.HasAggregate) ↔
      (e.HidesAggregate → e.ShowsAggregate)) := by
  have blind : e.readsRelation = false := by
    rw [Expr.containsQuery_eq, Bool.or_eq_false_iff] at queryless
    exact queryless.1
  have bare : bareExpression text = .ok e := bareExpression_ok.mpr ⟨⟨quantifier, all_, read⟩, blind⟩
  have fit (kind : Kind) : Misfit.find? kind text = none ↔ (e.ShowsAggregate ↔ kind = .measure) := by
    rw [Misfit.find?_none, ← Expr.aggregates_iff]
    constructor
    · rintro ⟨other, same, fits⟩
      obtain rfl : e = other := Except.ok.inj (bare.symm.trans same)
      exact fits
    · exact fun fits => ⟨e, bare, fits⟩
  have measure : Misfit.find? .measure text = none ↔ e.ShowsAggregate := by
    rw [fit]
    exact iff_true_right rfl
  have dimension : Misfit.find? .dimension text = none ↔ ¬ e.ShowsAggregate := by
    rw [fit]
    exact iff_false_right (by decide)
  refine ⟨measure, dimension, Expr.hasAggregate_iff, ?_⟩
  rw [measure, dimension, Expr.hasAggregate_iff]
  constructor
  · rintro ⟨same, -⟩ hides
    exact same.mpr (.inr hides)
  · intro shows
    have same : e.ShowsAggregate ↔ e.ShowsAggregate ∨ e.HidesAggregate :=
      ⟨.inl, fun either => either.elim id shows⟩
    exact ⟨same, not_congr same⟩

/-- A count that is rounded is refused as a measure and accepted as a dimension. -/
theorem aggregates_classified_rounded :
    Misfit.find? .measure "CEIL(COUNT(*))" ≠ none ∧ Misfit.find? .dimension "CEIL(COUNT(*))" = none ∧
      ∃ quantifier e, quantifier ≠ .distinct ∧
        Statement.readAll ("SELECT " ++ "CEIL(COUNT(*))") =
          some [.query (.query [] (.select (.select quantifier [.plain e] [] [])) [])] ∧
        e.containsQuery = false ∧ e.HasAggregate := by
  have computed : (bareExpression "CEIL(COUNT(*))").toOption.map (fun e =>
      (e.containsQuery, e.aggregates, e.operands.any Expr.aggregates)) = some (false, false, true) := by
    decide +kernel
  cases bare : bareExpression "CEIL(COUNT(*))" with
  | error misfit => simp [bare, Except.toOption] at computed
  | ok e =>
    simp only [bare, Except.toOption, Option.map_some, Option.some.injEq, Prod.mk.injEq,
      List.any_eq_true] at computed
    obtain ⟨queryless, unseen, operand, among, aggregating⟩ := computed
    obtain ⟨⟨quantifier, all_, read⟩, -⟩ := bareExpression_ok.mp bare
    obtain ⟨measure, dimension, -, -⟩ := aggregates_classified all_ read queryless
    have hidden : ¬ e.ShowsAggregate := by
      rw [← Expr.aggregates_iff, unseen]
      exact Bool.false_ne_true
    obtain ⟨part, within, calls⟩ := Expr.aggregates_iff.mp aggregating
    have has : e.HasAggregate := ⟨part, .inside among (within.mono Expr.reached_subset), calls⟩
    exact ⟨fun fits => hidden (measure.mp fits), dimension.mpr hidden, quantifier, e, all_, read,
      queryless, has⟩

end Clickstream
