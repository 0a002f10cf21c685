import Clickstream.Proofs.Sql.Tail.Never
import Clickstream.Proofs.Sql.Tail.TypeName

/-! Intervals, calls and windows with a tail after them. -/
namespace Clickstream.Sql
open Sql.Parser

/-- A level whose expressions are steady, and that finds no query in tidy tokens. -/
structure Level.Keeps (v : Tail) (lower : Level) : Prop where
  expr : ∀ n bound, Steady v n (lower.expr bound) (lower.expr bound)
  query : ∀ n, Never v n lower.query lower.query

section Call
variable {v : Tail} {n : Nat} {lower : Level} {operand operand' : Parser Expr}

theorem Steady.interval (h : Steady v n operand operand') :
    Steady v n (interval operand) (interval operand') := by
  intro d
  refine (h d).bind fun e => (Firm.oneOf? Keyword.timeUnits Keyword.from_not_mem_timeUnits).here.bind fun unit => ?_
  refine .ite (fun _ => Firm.precisionScale?.here.bind fun _ => .pure _) fun _ => ?_
  refine Firm.precision?.here.bind fun _ => (Firm.keyword? "TO" (by decide)).here.bind fun _ => ?_
  refine .ite (fun _ => (Steady.dateField d).bind fun _ => ?_) fun _ => .pure _
  exact .ite (fun _ => Firm.precision?.here.bind fun _ => .pure _) fun _ => .pure _

theorem Firm.qualifiedStar {k m : Nat} (fewer : k ≤ m) (table : List Name) :
    Firm v k (qualifiedStar table k) (qualifiedStar table m) := by
  induction k generalizing m table with
  | zero => exact fun _ => .none_below
  | succ k ih =>
    obtain ⟨m, rfl⟩ : ∃ m', m = m' + 1 := ⟨m - 1, by omega⟩
    intro d
    have rest (part : Name) : Extends v k True d d
        (do
          Parser.mark "."
          if ← Parser.mark? "*" then return Expr.star (table ++ [part])
          else Parser.qualifiedStar (table ++ [part]) k)
        (do
          Parser.mark "."
          if ← Parser.mark? "*" then return Expr.star (table ++ [part])
          else Parser.qualifiedStar (table ++ [part]) m) :=
      (Firm.mark "." (by decide) d).bind fun _ => (Firm.mark? "*" (by decide) d).bind fun _ =>
        .ite (fun _ => .pure _) fun _ => ih (by omega) _ d
    simp only [Parser.qualifiedStar, Parser.name, bind_assoc]
    refine .next_bind (fun _ _ t rest h => ?_) .fail_bind (fun _ _ => .fail_bind) fun t _ _ _ => ?_
    · exact Tail.cases_start h (fun _ => rfl) fun _ => rfl
    · split
      · exact rest _
      · exact rest _
      · exact .fail_bind

theorem Steady.starOr (level : lower.Keeps v) : Steady v n (starOr lower) (starOr lower) := by
  intro d
  refine (Firm.mark? "*" (by decide)).here.bind fun _ => .ite (fun _ => .pure _) fun _ => ?_
  refine .fuel_then (f := fun k => attempt (qualifiedStar [] k))
    (g := fun k => attempt (qualifiedStar [] k)) fun k m bound fewer => ?_
  refine ((Firm.qualifiedStar fewer []).attempt.here).bind fun star => ?_
  cases star
  · exact level.expr k 0 d
  · exact .pure _

theorem Inner.orderItem (level : lower.Keeps v) : Inner v n (orderItem lower) (orderItem lower) :=
  (level.expr n 0).inner.bind fun _ => (Firm.oneOf? ["ASC", "DESC"] (by decide)).inner.bind fun _ =>
    (Firm.keywords? ["NULLS", "FIRST"] (by decide)).inner.bind fun _ d =>
      .ite (fun _ => .pure _) fun _ => (Firm.keywords? ["NULLS", "LAST"] (by decide)).here.bind fun _ => .pure _

theorem Inner.orderBy? (level : lower.Keeps v) : Inner v n (orderBy? lower) (orderBy? lower) :=
  (Firm.keywords? ["ORDER", "BY"] (by decide)).inner.bind fun _ d =>
    .ite (fun _ => (Inner.orderItem level).list d) fun _ => .pure _

theorem Inner.argument (level : lower.Keeps v) : Inner v n (argument lower) (argument lower) := by
  intro d
  refine .peekAt?_inside (Tail.head_cases rfl rfl) fun t => .ite (fun _ => ?_) fun _ => ?_
  · exact (Steady.name.inner d).bind fun _ => (Firm.mark "=>" (by decide)).here.bind fun _ =>
      ((Steady.starOr level).inner d).bind fun _ => .pure _
  · exact (Steady.starOr level).inner d

theorem Inner.onOverflow? (level : lower.Keeps v) :
    Inner v n (onOverflow? lower) (onOverflow? lower) := by
  intro d
  refine (Firm.keywords? ["ON", "OVERFLOW"] (by decide)).here.bind fun _ => .ite (fun _ => ?_) fun _ => .pure _
  refine (Firm.keyword? "ERROR" (by decide)).here.bind fun _ => .ite (fun _ => .pure _) fun _ => ?_
  refine (Firm.keyword "TRUNCATE" (by decide)).here.bind fun _ => ?_
  dsimp only
  refine .peek?_inside fun t => ?_
  have last (filler : List Expr) : Extends v n True (d + 1) (d + 1)
      (do
        let _ ← oneOf ["WITH", "WITHOUT"]
        keyword "COUNT"
        return [Clause.clause .onOverflow filler])
      (do
        let _ ← oneOf ["WITH", "WITHOUT"]
        keyword "COUNT"
        return [Clause.clause .onOverflow filler]) :=
    (Firm.oneOf ["WITH", "WITHOUT"] (by decide)).here.bind fun _ =>
      (Firm.keyword "COUNT" (by decide)).here.bind fun _ => .pure _
  split
  · refine .ite (fun _ => ?_) fun _ => .fail_bind
    exact last _
  · refine .ite (fun _ => .fail_bind) fun _ => ?_
    exact ((level.expr n 0).inner d).bind fun _ => last _
  · exact .fail_bind

theorem Closing.arguments (level : lower.Keeps v) :
    Closing v n (arguments lower) (arguments lower) := by
  intro d
  refine .closing? (.pure _) ?_
  dsimp only
  refine (Firm.keyword? "ALL" (by decide)).here.bind fun all => ?_
  refine (Firm.keyword? "DISTINCT" (by decide)).here.bind fun distinct => ?_
  refine .ite (fun _ => .fail_bind) fun _ => ?_
  refine ((Inner.argument level).list d).bind fun args => (Inner.orderBy? level d).bind fun order => ?_
  refine (Firm.keyword? "LIMIT" (by decide)).here.bind fun _ => .option_bind (fun limit => ?_)
    fun _ => (level.expr n 0).inner d
  exact (Inner.onOverflow? level d).bind fun _ => Extends.closing.bind fun _ => .pure _

theorem Inner.frameBound (level : lower.Keeps v) (h : Steady v n operand operand') :
    Inner v n (frameBound lower operand) (frameBound lower operand') := by
  intro d
  have last (rows : List Expr) : Extends v n True (d + 1) (d + 1)
      (do let _ ← oneOf ["PRECEDING", "FOLLOWING"]; return rows)
      (do let _ ← oneOf ["PRECEDING", "FOLLOWING"]; return rows) :=
    (Firm.oneOf ["PRECEDING", "FOLLOWING"] (by decide)).here.bind fun _ => .pure _
  refine (Firm.keywords? ["CURRENT", "ROW"] (by decide)).here.bind fun _ => .ite (fun _ => .pure _) fun _ => ?_
  refine (Firm.keyword? "UNBOUNDED" (by decide)).here.bind fun _ => .ite (fun _ => last _) fun _ => ?_
  refine .peek?_inside fun t => ?_
  split
  · exact ((Steady.interval h).inner d).bind fun _ => last _
  · exact ((level.expr n 0).inner d).bind fun _ => last _

theorem Closing.window (level : lower.Keeps v) (h : Steady v n operand operand') :
    Closing v n (window lower operand) (window lower operand') := by
  intro d
  cases n with
  | zero => exact .none_below
  | succ n =>
    rw [Parser.window, Parser.window]
    refine .peek?_look (fun none_open => absurd none_open (Nat.succ_ne_zero d)) fun t => ?_
    extract_lets frame parts frame' parts'
    have frameKeeps (partition : List Expr) :
        Extends v (n + 1) True (d + 1) d (frame partition) (frame' partition) := by
      refine (Inner.orderBy? level d).bind fun order => .closing? (.pure _) ?_
      refine (Firm.oneOf ["ROWS", "RANGE", "GROUPS"] (by decide)).here.bind fun _ => ?_
      have bound := Inner.frameBound level h d
      refine (Firm.keyword? "BETWEEN" (by decide)).here.bind fun _ => .ite (fun _ => ?_) fun _ => ?_
      · exact bound.bind fun _ => (Firm.keyword "AND" (by decide)).here.bind fun _ =>
          bound.bind fun _ => Extends.closing.bind fun _ => .pure _
      · exact bound.bind fun _ => Extends.closing.bind fun _ => .pure _
    have partsKeeps : Extends v (n + 1) True (d + 1) d (parts ()) (parts' ()) := by
      refine (Firm.keywords? ["PARTITION", "BY"] (by decide)).here.bind fun _ => .ite (fun _ => ?_) fun _ => ?_
      · exact ((level.expr (n + 1) 0).inner.list d).bind frameKeeps
      · exact frameKeeps []
    split
    · split
      · exact .passes (by simp) (by simp) (partsKeeps.weaken id (Nat.le_succ n))
      · exact .stays partsKeeps
    · exact .stays partsKeeps

section Filter
variable {α β γ : Type} (p q : Parser α) (x : α → β) (z : β) (f g : β → Parser γ)

/-- The condition of a call's filter where a filter follows, and what is read after either. -/
def Parser.filtering : Parser γ := do
  if !(← keyword? "FILTER") then Pure.pure z >>= f else
  if !(← mark? "(") then Pure.pure z >>= f else
  if !(← keyword? "WHERE") then Pure.pure z >>= f else
    p >>= fun a => mark ")" >>= fun _ => Pure.pure (x a) >>= f

variable {t w : Token} {ys : List Token}

theorem Parser.filtering_other (other : t.isKeyword "FILTER" = false) :
    filtering p x z f (t :: ys) = f z (t :: ys) := by
  refine (pass?_bind_cons _ t ys _).trans ?_
  rw [other]
  rfl

theorem Parser.filtering_closed (is : t.isKeyword "FILTER" = true) (closed : ys.head? ≠ some (.mark "(")) :
    filtering p x z f (t :: ys) = f z ys := by
  refine (pass?_bind_cons _ t ys _).trans ?_
  rw [is]
  exact mark?_bind_other closed _

theorem Parser.filtering_where (is : t.isKeyword "FILTER" = true) (where_ : w.isKeyword "WHERE" = true) :
    filtering p x z f (t :: .mark "(" :: w :: ys) =
      (p >>= fun a => mark ")" >>= fun _ => Pure.pure (x a) >>= f) ys := by
  refine (pass?_bind_cons _ t _ _).trans ?_
  rw [is]
  refine (pass?_bind_cons _ _ _ _).trans ?_
  refine (pass?_bind_cons _ w ys _).trans ?_
  rw [where_]
  rfl

variable {p q f g}

theorem Extends.filtering {firm : Prop} {d e : Nat} (yes : Extends v n firm (d + 1) (d + 1) p q)
    (next : ∀ a, Extends v n firm d e (f a) (g a)) :
    Extends v n firm d e (Parser.filtering p x z f) (Parser.filtering q x z g) := by
  refine .of_steps fun {ys} short ok => ?_
  cases ys with
  | nil =>
    obtain ⟨t, rest, h, other⟩ := v.head_isKeyword "FILTER" (by decide)
    refine ⟨d, [], f z, g z, rfl, ?_, Nat.le_refl _, ok, (next z).weaken id short⟩
    rw [List.nil_append, h]
    exact filtering_other q x z g other
  | cons t ys =>
    cases is : t.isKeyword "FILTER" with
    | false =>
      exact ⟨d, t :: ys, f z, g z, filtering_other p x z f is, filtering_other q x z g is, Nat.le_refl _, ok,
        (next z).weaken id short⟩
    | true =>
      rw [List.length_cons] at short
      rcases tidy_filter ok is with ⟨w, rest, rfl, where_, ok'⟩ | ⟨closed, ok'⟩
      · simp only [List.length_cons] at short
        refine ⟨d + 1, rest, _, _, filtering_where p x z f is where_, filtering_where q x z g is where_,
          ?_, ok', ?_⟩
        · simp only [List.length_cons]
          omega
        · exact (yes.bind fun a => Extends.closing.bind fun _ => next (x a)).weaken id (by omega)
      · have closed' : (ys ++ v.tokens).head? ≠ some (.mark "(") := by
          cases ys with
          | nil =>
            obtain ⟨t', rest, h, rfl | rfl⟩ := v.head <;> simp [h]
          | cons t' ys => simpa using closed
        exact ⟨d, ys, f z, g z, filtering_closed p x z f is closed, filtering_closed q x z g is closed',
          Nat.le_succ _, ok', (next z).weaken id (by omega)⟩

end Filter

theorem Steady.callClauses (level : lower.Keeps v) (h : Steady v n operand operand') :
    Steady v n (callClauses lower operand) (callClauses lower operand') := by
  intro d
  rw [Parser.callClauses, Parser.callClauses]
  dsimp only
  refine (Firm.keywords? ["WITHIN", "GROUP"] (by decide)).here.bind fun _ => .option_bind (fun group => ?_)
    fun _ => (Inner.parens ((Firm.keywords ["ORDER", "BY"] (by decide)).inner.bind fun _ =>
      (Inner.orderItem level).list)).here
  refine .filtering _ _ ((level.expr n 0).inner.here) fun filter => ?_
  refine (Firm.oneOf? ["RESPECT", "IGNORE"] (by decide)).here.bind fun _ => .option_bind (fun nulls => ?_)
    fun _ => (Firm.keyword "NULLS" (by decide)).here
  refine (Firm.keyword? "OVER" (by decide)).here.bind fun _ => .ite (fun _ => ?_) fun _ => .pure _
  refine .opening? ?_ ?_
  · exact (Closing.window level h).here.bind fun _ => .pure _
  · exact (Steady.name d).bind fun _ => .pure _

theorem Steady.call (level : lower.Keeps v) (h : Steady v n operand operand') (function : List Name) :
    Steady v n (call lower operand function) (call lower operand' function) :=
  fun d => Extends.opening.bind fun _ => (Closing.arguments level).here.bind fun _ =>
    (Steady.callClauses level h d).bind fun _ => .pure _

end Call
end Clickstream.Sql
