import Clickstream.Proofs.Sql.Tail.Expression

/-! Levels with a tail after what they read. -/
namespace Clickstream.Sql
open Sql.Parser

section Query
variable {v : Tail} {n : Nat} {lower : Level}

theorem Inner.columns? : Inner v n columns? columns? :=
  (Firm.markAhead "(" (by decide)).inner.bind fun _ _ =>
    .ite (fun _ => Steady.name.inner.list.parens.here) fun _ => .pure _

theorem Never.cte (level : lower.Keeps v) : Never v n (cte lower) (cte lower) := by
  refine Steady.name.inner.bind_never fun part => (Firm.keyword? "AS" (by decide)).inner.bind_never fun announced => ?_
  extract_lets source
  have sourceNever (columns : List Name) : Never v n (source columns) (source columns) := by
    refine (Firm.keyword? "MATERIALIZED" (by decide)).inner.bind_never fun _ => .ite ?_ ?_
    · exact (level.query n).parens.bind
    · exact (Firm.keywords? ["NOT", "MATERIALIZED"] (by decide)).inner.bind_never fun _ => (level.query n).parens.bind
  refine .ite (sourceNever []) ?_
  exact Inner.columns?.bind_never fun columns => (Firm.keyword "AS" (by decide)).inner.bind_never fun _ =>
    sourceNever columns

theorem Never.bodyOperand (level : lower.Keeps v) : Never v n (bodyOperand lower) (bodyOperand lower) := by
  refine .absent (by decide) (.opening? (level.query n).bind (.absent (by decide) ?_))
  dsimp only [Bool.false_eq_true, ↓reduceIte]
  simp only [Parser.keyword, bind_assoc]
  exact .absent (by decide) .fail

theorem Never.body (level : lower.Keeps v) (fuel bound : Nat) :
    Never v n (body lower fuel bound) (body lower fuel bound) := by
  cases fuel with
  | zero => exact .fail
  | succ fuel => exact (Never.bodyOperand level).bind

/-- The words that begin a query's body are none that tidy tokens hold. -/
theorem Never.query (level : lower.Keeps v) : Never v n (query lower) (query lower) := by
  refine (Firm.keyword? "WITH" (by decide)).inner.bind_never fun _ => .ite ?_ ?_
  · exact (Firm.keyword? "RECURSIVE" (by decide)).inner.bind_never fun _ => (Never.cte level).list.bind
  · dsimp only
    rw [pure_bind]
    exact .absent (by decide) (.absent (by decide) (Never.body level 3 0).bind)

theorem level_keeps : ∀ depth, (level depth).Keeps v
  | 0 => ⟨fun _ _ _ => .fail, fun _ => .fail⟩
  | depth + 1 => ⟨fun _ bound => Steady.expression (level_keeps depth) bound,
      fun _ => Never.query (level_keeps depth)⟩

end Query
end Clickstream.Sql
