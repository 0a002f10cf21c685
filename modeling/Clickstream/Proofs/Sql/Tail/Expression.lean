import Clickstream.Proofs.Sql.Tail.Operand

/-! Expressions with a tail after them. The tail binds to nothing. -/
namespace Clickstream.Sql
open Sql.Parser

section Expression
variable {v : Tail} {n : Nat} {lower : Level}

theorem strength_tail : strength v.tokens = 0 := by
  rcases v.starts with ⟨rest, h⟩ | ⟨rest, h⟩
  · rw [h]
    simp [strength, otherOperators, comparisons]
  · rw [h]
    simp [strength, tests]

/-- With the tail after them, tokens bind as strongly as without. -/
theorem strength_append (ys : List Token) : strength (ys ++ v.tokens) = strength ys := by
  cases ys with
  | nil => exact strength_tail
  | cons t ys =>
    obtain ⟨t', rest', h, is⟩ := v.head
    rw [List.cons_append]
    cases t with
    | word text key quoted =>
      simp only [strength]
      split
      all_goals try rfl
      · rcases ys with _ | ⟨a, _ | ⟨b, ys⟩⟩
        · rw [List.nil_append, h]
          rcases is with rfl | rfl <;> cases rest' <;> rfl
        · rw [List.singleton_append, h]
          rcases is with rfl | rfl <;> simp [Token.isKeyword]
        · rfl
      · rcases ys with _ | ⟨t, ys⟩
        · rw [List.nil_append, h]
          rcases is with rfl | rfl <;> rfl
        · cases t <;> rfl
    | _ => rfl

theorem binaryOperator?_pure {t : Token} (other : t.isKeyword "OPERATOR" = false) :
    ∃ operator, binaryOperator? t = Pure.pure operator := by
  unfold binaryOperator?
  split
  · exact ⟨_, rfl⟩
  · split
    · exact ⟨_, rfl⟩
    · exact ⟨_, rfl⟩
  · split
    · exact ⟨_, rfl⟩
    · exact ⟨_, rfl⟩
    · exact ⟨_, rfl⟩
    · simp [Token.isKeyword] at other
    · exact ⟨_, rfl⟩
  · exact ⟨_, rfl⟩

theorem Steady.binary (level : lower.Keeps v) (bound : Nat) (left : Expr) (operator : String) :
    Steady v n (binary lower bound left operator) (binary lower bound left operator) := by
  intro d
  refine (Firm.oneOf? ["ANY", "ALL"] (by decide)).here.bind fun quantifier => ?_
  cases quantifier with
  | none => exact (level.expr n bound d).bind fun _ => .pure _
  | some quantifier =>
    exact (level.expr n bound).inner.parens.here.bind fun _ => .ite (fun _ => .pure _) fun _ => .fail

theorem Steady.isTest (level : lower.Keeps v) (left : Expr) :
    Steady v n (isTest lower left) (isTest lower left) := by
  intro d
  refine (Firm.keyword? "NOT" (by decide)).here.bind fun _ => (Firm.oneOf? _ (by decide)).here.bind fun found => ?_
  split
  · exact (Steady.keyword "FROM" d).bind fun _ => (level.expr n 0 d).bind fun _ => .pure _
  · exact .pure _
  · exact .fail

theorem Firm.escape? : Firm v n escape? escape? :=
  (Firm.keyword? "ESCAPE" (by decide)).bind fun _ _ =>
    .ite (fun _ => Firm.textLiteral.here.bind fun _ => .pure _) fun _ => .pure _

theorem Firm.inTest (level : lower.Keeps v) (left : Expr) (negated : Bool) :
    Firm v n (inTest lower left negated) (inTest lower left negated) := by
  refine (Firm.keyword? "UNNEST" (by decide)).bind fun _ d => .ite (fun _ => ?_) fun _ => ?_
  · exact (level.expr n 0).inner.parens.here.bind fun _ => .pure _
  · refine Inner.parens (Firm.queryAhead.inner.bind fun _ d => .ite (fun _ => ?_) fun _ => ?_) d
    · exact (level.query n).empty
    · exact ((level.expr n 0).inner.list d).bind fun _ => .pure _

/-- A test is its first word, and what is read after it. -/
theorem test_eq (level : lower.Keeps v) (left : Expr) (negated : Bool) :
    ∃ f : String → Parser Expr, test lower left negated = oneOf tests >>= f ∧
      ∀ n key, Steady v n (f key) (f key) := by
  refine ⟨_, rfl, fun n key d => ?_⟩
  have pattern := level.expr n 60 d
  split
  · exact (Firm.inTest level left negated).here
  · exact pattern.bind fun _ => (Firm.keyword "AND" (by decide)).here.bind fun _ => pattern.bind fun _ => .pure _
  · exact (Firm.keyword "TO" (by decide)).here.bind fun _ => pattern.bind fun _ =>
      Firm.escape?.here.bind fun _ => .pure _
  · exact pattern.bind fun _ => Firm.escape?.here.bind fun _ => .pure _
  · exact pattern.bind fun _ => Firm.escape?.here.bind fun _ => .pure _
  · refine .ite (fun _ => ?_) fun _ => pattern.bind fun _ => .pure _
    exact (Firm.keyword? "RLIKE" (by decide)).here.bind fun _ => pattern.bind fun _ => .pure _

theorem Steady.test (level : lower.Keeps v) (left : Expr) (negated : Bool) :
    Steady v n (test lower left negated) (test lower left negated) := by
  obtain ⟨f, h, keeps⟩ := test_eq level left negated
  rw [h]
  exact (Firm.oneOf tests (by decide)).steady.bind (keeps n)

theorem Steady.subscript (level : lower.Keeps v) (left : Expr) :
    Steady v n (subscript lower left) (subscript lower left) := by
  intro d
  have expr := level.expr n 0 d
  unfold Parser.subscript
  extract_lets bound? bounds
  have boundKeeps : Extends v n (d ≠ 0) d d bound? bound? :=
    (Firm.markAhead "]" (by decide)).here.bind fun _ =>
      .ite (fun _ => .pure _) fun _ => expr.bind fun _ => .pure _
  refine (Firm.markAhead ":" (by decide)).here.bind fun _ => ?_
  have boundsKeep (index : List Expr) : Extends v n (d ≠ 0) d d (bounds index) (bounds index) := by
    have close (all : List Expr) : Extends v n (d ≠ 0) d d
        (do Parser.mark "]"; return Expr.apply .subscript ([left] ++ index ++ all))
        (do Parser.mark "]"; return Expr.apply .subscript ([left] ++ index ++ all)) :=
      (Firm.mark "]" (by decide)).here.bind fun _ => .pure _
    refine (Firm.mark? ":" (by decide)).here.bind fun _ => .ite (fun _ => ?_) fun _ => close []
    refine boundKeeps.bind fun upper => .ite (fun _ => close _) fun _ => ?_
    refine (Firm.mark? ":" (by decide)).here.bind fun _ => .ite (fun _ => ?_) fun _ => close _
    exact boundKeeps.bind fun _ => close _
  exact .ite (fun _ => boundsKeep []) fun _ => expr.bind fun e => boundsKeep [e]

/-- A test whose first word has been passed and is put back. -/
theorem Steady.test_again (level : lower.Keeps v) (left : Expr) (negated : Bool) {text key : String}
    {quoted : Bool} (is : tests.contains key = true) :
    Steady v n (do modify (.word text key quoted :: ·); Parser.test lower left negated)
      (do modify (.word text key quoted :: ·); Parser.test lower left negated) := by
  intro d
  obtain ⟨f, h, keeps⟩ := test_eq level left negated
  have again (ys : List Token) : (do modify (.word text key quoted :: ·); Parser.test lower left negated :
      Parser Expr) ys = f key ys := by
    change Parser.test lower left negated (.word text key quoted :: ys) = _
    rw [h]
    have passed : Parser.oneOf tests (.word text key quoted :: ys) = some (key, ys) := by
      refine Parser.bind_some.mpr ⟨some key, ys, ?_, rfl⟩
      rw [Parser.oneOf?_word, if_pos is]
    change (Parser.oneOf tests (.word text key quoted :: ys)).bind (fun x => f x.1 x.2) = _
    rw [passed]
    rfl
  exact .of_steps fun {ys} short ok => ⟨d, ys, f key, f key, again ys, again _, Nat.le_refl _, ok,
    (keeps _ key d)⟩

/-- An operator or a test is at least one token. -/
theorem Extends.continued_bind (level : lower.Keeps v) (bound : Nat) (left : Expr) {d : Nat}
    {f g : Expr → Parser Expr} (next : ∀ e, Extends v n (d ≠ 0) d d (f e) (g e)) :
    Extends v (n + 1) (d ≠ 0) d d (Parser.continued lower bound left >>= f)
      (Parser.continued lower bound left >>= g) := by
  simp only [Parser.continued, bind_assoc]
  refine .next_bind (fun none_open inside => absurd none_open inside) .fail (fun _ _ => .fail)
    fun t opens closes tight => ?_
  obtain ⟨operator, h⟩ := binaryOperator?_pure (tight "OPERATOR" (by decide))
  rw [h, pure_bind, pure_bind]
  refine .bind ?_ next
  cases operator with
  | some operator => exact Steady.binary level bound left operator d
  | none =>
    dsimp only
    split
    · exact (Steady.typeName d).bind fun _ => .pure _
    · exact .pure _
    · exact Steady.subscript level left d
    · split
      · exact Steady.isTest level left d
      · exact (Firm.keywords ["TIME", "ZONE"] (by decide)).here.bind fun _ =>
          (level.expr n bound d).bind fun _ => .pure _
      · exact Steady.test level left true d
      · exact .ite (fun is => Steady.test_again level left false is d) fun _ => .fail
    · exact .fail

theorem Steady.extended (level : lower.Keeps v) (bound : Nat) (left : Expr) {k m : Nat}
    (fewer : k ≤ m) : Steady v k (extended lower bound left k) (extended lower bound left m) := by
  induction k generalizing m left with
  | zero => exact fun _ => .none_below
  | succ k ih =>
    obtain ⟨m, rfl⟩ : ∃ m', m = m' + 1 := ⟨m - 1, by omega⟩
    intro d
    refine .get_bind fun ys short => ?_
    dsimp only
    rw [strength_append]
    refine .ite (fun _ => .pure _) fun _ => Extends.weaken ?_ id short
    exact .continued_bind level _ left fun e => ih e (by omega) d

theorem Steady.expression (level : lower.Keeps v) (bound : Nat) :
    Steady v n (expression lower bound) (expression lower bound) :=
  fun d => (Steady.operand level d).bind fun e => .fuel_bind fun _ _ _ fewer =>
    Steady.extended level bound e fewer d

end Expression
end Clickstream.Sql
