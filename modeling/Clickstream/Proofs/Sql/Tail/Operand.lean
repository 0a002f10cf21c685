import Clickstream.Proofs.Sql.Tail.Call

/-! Operands with a tail after them. -/
namespace Clickstream.Sql
open Sql.Parser

section Operand
variable {v : Tail} {n d e : Nat} {firm : Prop} {lower : Level} {inner inner' : Parser Expr}

theorem Steady.nameParts {k m : Nat} (fewer : k ≤ m) : Steady v k (nameParts k) (nameParts m) := by
  induction k generalizing m with
  | zero => exact fun _ => .none_below
  | succ k ih =>
    obtain ⟨m, rfl⟩ : ∃ m', m = m' + 1 := ⟨m - 1, by omega⟩
    intro d
    refine (apart_mark "." (by decide)).pass?_bind ?_ (.pure _)
    refine (Firm.mark? "*" (by decide)).here.bind fun _ => .ite (fun _ => .pure _) fun _ => ?_
    exact (Steady.name d).bind fun _ => (ih (by omega) d).bind fun _ => .pure _

theorem Steady.plainWord (level : lower.Keeps v) (h : Steady v n inner inner') (first : Name) :
    Steady v n (plainWord lower inner first) (plainWord lower inner' first) := by
  intro d
  refine .fuel_then fun k m bound fewer => (Steady.nameParts fewer d).bind fun x => ?_
  obtain ⟨parts, star⟩ := x
  refine .ite (fun _ => .pure _) fun _ => (Firm.markAhead "(" (by decide)).here.bind fun _ => ?_
  refine .ite (fun _ => (Steady.call level h _ d).weaken id bound) fun _ => ?_
  refine .peek?_pass (fun _ => .inl (Tail.head_cases rfl rfl)) fun t => ?_
  split
  · split
    · exact .passes (by simp) (by simp) (.pure _)
    · exact .stays (.pure _)
  · exact .stays (.pure _)

theorem Steady.caseExpression (level : lower.Keeps v) :
    Steady v n (caseExpression lower) (caseExpression lower) := by
  intro d
  have expr := level.expr n 0 d
  have branch := expr.bind fun condition => (Firm.keyword "THEN" (by decide)).here.bind fun _ =>
    expr.bind fun result => Extends.pure [condition, result]
  refine (Firm.keyword? "WHEN" (by decide)).here.bind fun _ => ?_
  extract_lets _ branches
  have branchesKeep (inner : List Expr) :
      Extends v n (d ≠ 0) d d (branches inner) (branches inner) := by
    refine branch.bind fun first => (Extends.many (apart_keyword "WHEN" (by decide)) branch).bind fun others => ?_
    refine (Firm.keyword? "ELSE" (by decide)).here.bind fun _ => .option_bind (fun default => ?_) fun _ => expr
    exact (Firm.keyword "END" (by decide)).here.bind fun _ => .pure _
  refine .ite (fun _ => branchesKeep []) fun _ => expr.bind fun e => ?_
  exact (Firm.keyword "WHEN" (by decide)).here.bind fun _ => branchesKeep [e]

theorem Firm.cast (level : lower.Keeps v) : Firm v n (cast lower) (cast lower) := by
  refine Inner.parens ((level.expr n 0).inner.bind fun e => (Firm.keyword "AS" (by decide)).inner.bind fun _ => ?_)
  refine Steady.typeName.inner.bind fun _ => (Firm.keyword? "FORMAT" (by decide)).inner.bind fun _ d => ?_
  refine .ite (fun _ => (Steady.value.inner d).bind fun _ => ?_) fun _ => .pure _
  refine (Firm.keywords? ["AT", "TIME", "ZONE"] (by decide)).here.bind fun _ => ?_
  exact .ite (fun _ => (Steady.value.inner d).bind fun _ => .pure _) fun _ => .pure _

theorem Firm.conversion (level : lower.Keeps v) : Firm v n (conversion lower) (conversion lower) := by
  refine Inner.parens ((level.expr n 0).inner.bind fun e => (Firm.keyword? "USING" (by decide)).inner.bind fun _ d => ?_)
  refine .ite (fun _ => (Steady.path.inner d).bind fun _ => .pure _) fun _ => ?_
  refine (Steady.comma.inner d).bind fun _ => (Steady.typeName.inner d).bind fun _ => ?_
  refine (Firm.keywords? ["CHARACTER", "SET"] (by decide)).here.bind fun _ => ?_
  exact .ite (fun _ => (Steady.path.inner d).bind fun _ => .pure _) fun _ => .pure _

theorem Firm.extraction (level : lower.Keeps v) : Firm v n (extraction lower) (extraction lower) :=
  Inner.parens (Steady.dateField.inner.bind fun _ => (Steady.keyword "FROM").inner.bind fun _ =>
    (level.expr n 0).inner.bind fun _ _ => .pure _)

theorem Firm.rounding (level : lower.Keeps v) (form : Form) :
    Firm v n (rounding lower form) (rounding lower form) := by
  refine Inner.parens ((level.expr n 0).inner.bind fun e => (Firm.keyword? "TO" (by decide)).inner.bind fun _ d => ?_)
  refine .ite (fun _ => (Steady.dateField.inner d).bind fun _ => .pure _) fun _ => ?_
  exact (Inner.comma? d).bind fun _ =>
    .ite (fun _ => Firm.numberValue.here.bind fun _ => .pure _) fun _ => .pure _

theorem Firm.position (level : lower.Keeps v) : Firm v n (position lower) (position lower) :=
  Inner.parens ((level.expr n 60).inner.bind fun _ => (Firm.keyword "IN" (by decide)).inner.bind fun _ =>
    (level.expr n 0).inner.bind fun _ _ => .pure _)

theorem Firm.substring (level : lower.Keeps v) : Firm v n (substring lower) (substring lower) := by
  refine Inner.parens ((level.expr n 0).inner.bind fun e d => ?_)
  have expr := (level.expr n 0).inner d
  refine (Inner.comma? d).bind fun _ => ?_
  extract_lets length
  have lengthKeeps (start : List Expr) :
      Extends v n True (d + 1) (d + 1) (length start) (length start) := by
    refine (Firm.keyword? "FOR" (by decide)).here.bind fun _ => .ite (fun _ => expr.bind fun _ => .pure _) fun _ => ?_
    exact (Inner.comma? d).bind fun _ => .option_bind (fun _ => .pure _) fun _ => expr
  refine .ite (fun _ => expr.bind fun e => lengthKeeps [e]) fun _ => ?_
  exact (Inner.keyword? "FROM" d).bind fun _ => .option_bind lengthKeeps fun _ => expr

theorem Firm.overlay (level : lower.Keeps v) : Firm v n (overlay lower) (overlay lower) := by
  have expr := (level.expr n 0).inner
  refine Inner.parens (expr.bind fun e => (Firm.keyword "PLACING" (by decide)).inner.bind fun _ => ?_)
  refine expr.bind fun text => (Steady.keyword "FROM").inner.bind fun _ => expr.bind fun start => ?_
  exact (Firm.keyword? "FOR" (by decide)).inner.bind fun _ d => .option_bind (fun _ => .pure _) fun _ => expr d

theorem Firm.trimming (level : lower.Keeps v) : Firm v n (trimming lower) (trimming lower) := by
  have expr := (level.expr n 0).inner
  refine Inner.parens ((Firm.oneOf? ["BOTH", "LEADING", "TRAILING"] (by decide)).inner.bind fun side => expr.bind fun e => ?_)
  refine (Inner.keyword? "FROM").bind fun _ d => .ite (fun _ => (expr d).bind fun _ => .pure _) fun _ => ?_
  exact (Inner.comma? d).bind fun _ => .pure _

theorem Firm.existence (level : lower.Keeps v) (negated : Bool) :
    Firm v n (existence lower negated) (existence lower negated) := fun d => by
  simp only [Parser.existence, Parser.parens, bind_assoc]
  exact Extends.opening.bind fun _ => (level.query n).empty

theorem Ending.group (level : lower.Keeps v) : Ending v n (group lower) (group lower) := by
  intro d
  rw [Parser.group]
  refine Firm.queryAhead.here.bind fun _ => ?_
  extract_lets rest
  have restKeeps (e : Expr) : Extends v n (d ≠ 0) (d + 1) d (rest e) (rest e) := by
    refine Extends.closing.bind fun _ => (Firm.mark? "." (by decide)).here.bind fun _ => .ite (fun _ => ?_) fun _ => .pure _
    refine .token (fun t => ?_) rfl rfl fun h inside => absurd h inside
    split
    · exact .inr ⟨_, rfl⟩
    · exact .inl rfl
  refine .ite (fun _ => (level.query n).empty) fun _ => ((level.expr n 0).inner.list).here.bind fun es => ?_
  split
  · exact restKeeps _
  · exact restKeeps _

theorem Steady.arrayItems (level : lower.Keeps v) :
    Steady v n (arrayItems lower) (arrayItems lower) := by
  intro d
  refine (Firm.mark? "]" (by decide)).here.bind fun _ => .ite (fun _ => .pure _) fun _ => ?_
  simp only [Parser.list, bind_assoc]
  exact .fuel_then fun k m bound fewer => .items_bind fewer id (fun _ => rfl) (level.expr k 0 d)
    fun _ => (Firm.mark "]" (by decide)).here.bind fun _ => .pure _

theorem Steady.fromWord (level : lower.Keeps v) (h : Steady v n inner inner') (text key : String)
    (quoted : Bool) :
    Steady v n (fromWord lower inner text key quoted) (fromWord lower inner' text key quoted) := by
  intro d
  have plain := Steady.plainWord level h (Name.ofWord text quoted) d
  unfold Parser.fromWord
  dsimp only
  split
  iterate 7 exact .pure _
  iterate 5
    exact .opening? ((Closing.arguments level).here.bind fun _ => .pure _) (.pure _)
  · exact Steady.caseExpression level d
  · exact (Firm.conversion level).here
  iterate 3 exact (Firm.cast level).here
  · exact (Firm.existence level false).here
  · exact (Firm.extraction level).here
  · exact (Firm.rounding level .ceil).here
  · exact (Firm.rounding level .floor).here
  · refine (Firm.markAhead "(" (by decide)).here.bind fun _ => .ite (fun _ => ?_) fun _ => plain
    refine (Firm.position level).attempt.here.bind fun e => ?_
    cases e with
    | some e => exact .pure e
    | none => exact Steady.call level h _ d
  · exact (Firm.substring level).here
  · exact (Firm.overlay level).here
  · exact (Firm.trimming level).here
  · exact Steady.interval h d
  · refine (Firm.mark? "[" (by decide)).here.bind fun _ => .ite (fun _ => Steady.arrayItems level d) fun _ => ?_
    exact .opening? (level.query n).empty plain
  · refine (Firm.keyword? "EXISTS" (by decide)).here.bind fun _ => ?_
    exact .ite (fun _ => (Firm.existence level true).here) fun _ => (level.expr n 30 d).bind fun _ => .pure _
  · exact plain

theorem Steady.fromToken (level : lower.Keeps v) {t : Token} (opens : t ≠ .mark "(") :
    Steady v n (fromToken lower t) (fromToken lower t) := by
  intro d
  unfold Parser.fromToken
  split
  · exact .pure _
  · exact .pure _
  · exact .pure _
  · exact Steady.arrayItems level d
  · exact absurd rfl opens
  · exact Steady.placeholderName d
  · refine .ite (fun _ => (level.expr n 90 d).bind fun _ => .pure _) fun _ => ?_
    exact .ite (fun _ => (level.expr n 80 d).bind fun _ => .pure _) fun _ => .fail
  · exact .fail

private def typedOrInterval : Parser (Option Expr) := do
  match ← typeName with
  | .interval => return none
  | .custom => fail
  | .known => return some (.apply (.typed (← textLiteral)) [])

private theorem Firm.typedOrInterval : Firm v n typedOrInterval typedOrInterval := by
  intro d
  refine .typeName_bind (fun sort => ?_) fun _ _ _ => rfl
  cases sort with
  | known => exact Firm.textLiteral.here.bind fun _ => .pure _
  | interval => exact .pure none
  | custom => exact .fail

private theorem typedOrInterval_none {ys : List Token} (h : typedOrInterval ys = none) :
    typedLiteral inner ys = none := by
  refine Parser.bind_none.mpr fun sort r named => ?_
  have stuck := Parser.bind_none.mp h sort r named
  cases sort with
  | known =>
    refine Parser.bind_none.mpr fun text r' literal => ?_
    cases Parser.bind_none.mp stuck text r' literal
  | interval => cases stuck
  | custom => rfl

private theorem typedLiteral_misses {ys : List Token} (ok : tidy 0 ys = true)
    (h : typedLiteral inner ys = none) :
    typedLiteral inner' (ys ++ v.tokens) = none ∨
      ∃ text quoted rest, ys = .word text "INTERVAL" quoted :: rest ∧ interval inner rest = none := by
  cases begun : typedOrInterval ys with
  | none =>
    exact .inl (typedOrInterval_none
      ((Firm.typedOrInterval 0).fails trivial (Nat.lt_succ_self _) ok begun))
  | some x =>
    obtain ⟨sort, r, named, rest⟩ := Parser.bind_some.mp begun
    have stuck := Parser.bind_none.mp h sort r named
    cases sort with
    | known =>
      obtain ⟨text, r', literal, -⟩ := Parser.bind_some.mp rest
      cases Parser.bind_none.mp stuck text r' literal
    | interval =>
      obtain ⟨text, quoted, rfl⟩ := typeName_interval named
      exact .inr ⟨text, quoted, r, rfl, stuck⟩
    | custom => cases rest

theorem Steady.operandWithin (level : lower.Keeps v) {k m : Nat} (fewer : k ≤ m) :
    Steady v k (operandWithin lower k) (operandWithin lower m) := by
  induction k generalizing m with
  | zero => exact fun _ => .none_below
  | succ k ih =>
    obtain ⟨m, rfl⟩ : ∃ m', m = m' + 1 := ⟨m - 1, by omega⟩
    intro d
    have nested := ih (show k ≤ m by omega)
    have typed : Extends v (k + 1) (d ≠ 0) d d (typedLiteral (Parser.operandWithin lower k))
        (typedLiteral (Parser.operandWithin lower m)) := by
      refine .typeName_bind (fun sort => ?_) fun inside none_open => absurd none_open inside
      cases sort with
      | known => exact Firm.textLiteral.here.bind fun _ => .pure _
      | interval => exact Steady.interval nested d
      | custom => exact .fail
    have collated (b : Nat) (e : Expr) : Extends v b (d ≠ 0) d d
        (do if ← Parser.keyword? "COLLATE" then return .apply (.collate (← Parser.path)) [e] else return e)
        (do if ← Parser.keyword? "COLLATE" then return .apply (.collate (← Parser.path)) [e] else return e) :=
      (Firm.keyword? "COLLATE" (by decide)).here.bind fun _ =>
        .ite (fun _ => (Steady.path d).bind fun _ => .pure _) fun _ => .pure _
    refine .attempt_bind typed ?_ (fun e => .pure e) ?_
    · intro none_open ys short ok stuck
      obtain rfl : d = 0 := Decidable.not_not.mp none_open
      rcases typedLiteral_misses ok stuck with h | ⟨text, quoted, rest, rfl, h⟩
      · exact .inl h
      · refine .inr ⟨none_open, Parser.bind_none.mpr fun t r passed => ?_⟩
        obtain ⟨rfl, rfl⟩ : Token.word text "INTERVAL" quoted = t ∧ rest = r := by simpa using passed
        refine Parser.bind_none.mpr fun e r' read => ?_
        change Parser.interval _ rest = _ at read
        rw [h] at read
        cases read
    · refine .next_bind (fun none_open inside => absurd none_open inside) ?_ ?_ fun t opens closes _ => ?_
      · exact (Ending.group level d).bind (collated k)
      · rintro c -
        exact .fail_bind
      · cases t
        case word => exact (Steady.fromWord level nested _ _ _ d).bind (collated k)
        all_goals exact (Steady.fromToken level opens d).bind (collated k)

theorem Steady.operand (level : lower.Keeps v) : Steady v n (operand lower) (operand lower) :=
  fun d => .fuel_bind fun _ _ _ fewer => Steady.operandWithin level fewer d

end Operand
end Clickstream.Sql
