import Clickstream.Proofs.Sql.Tail.Combined

/-! Type names with a tail after them. A name of a type that is not known may go on into the tail, but
then it is no name of a type whose literals are read. -/
namespace Clickstream.Sql
open Sql.Parser

section TypeName
variable {v : Tail} {n d : Nat}

theorem Firm.precision? : Firm v n precision? precision? :=
  (Firm.markAhead "(" (by decide)).bind fun _ _ =>
    .ite (fun _ => (Firm.whole.inner.parens _).bind fun _ => .pure _) fun _ => .pure _

theorem Firm.precisionScale? : Firm v n precisionScale? precisionScale? := by
  refine (Firm.markAhead "(" (by decide)).bind fun _ _ => .ite (fun _ => ?_) fun _ => .pure _
  refine Inner.parens (Firm.whole.inner.bind fun _ => Inner.comma?.bind fun _ _ => ?_) _
  exact .ite (fun _ => (Firm.whole _).bind fun _ => .pure _) fun _ => .pure _

theorem Firm.length? : Firm v n length? length? := by
  refine (Firm.markAhead "(" (by decide)).bind fun _ _ => .ite (fun _ => ?_) fun _ => .pure _
  refine Inner.parens ((Inner.keyword? "MAX").bind fun _ _ => .ite (fun _ => .pure _) fun _ => ?_) _
  exact (Firm.whole _).bind fun _ =>
    (Firm.oneOf? ["CHARACTERS", "OCTETS"] (by decide) _).bind fun _ => .pure _

theorem Firm.timeZone? : Firm v n timeZone? timeZone? :=
  (Firm.oneOf? ["WITH", "WITHOUT"] (by decide)).bind fun _ _ =>
    .ite (fun _ => Firm.keywords ["TIME", "ZONE"] (by decide) _) fun _ => .pure _

theorem Firm.shape (shape : TypeShape) : Firm v n shape.rest shape.rest := by
  cases shape with
  | plain => exact fun _ => .pure _
  | precision => exact Firm.precision?
  | integer =>
    exact Firm.precision?.bind fun _ => (Firm.keyword? "UNSIGNED" (by decide)).bind fun _ _ => .pure _
  | length => exact Firm.length?
  | exact => exact Firm.precisionScale?
  | zoned => exact Firm.precision?.bind fun _ => Firm.timeZone?
  | strings => exact Firm.singleString.inner.list.parens.bind fun _ _ => .pure _

theorem Firm.characterType : Firm v n characterType characterType :=
  (Firm.keyword? "VARYING" (by decide)).bind fun _ _ => .ite (fun _ => Firm.length? _) fun _ =>
    (Firm.keywords? ["LARGE", "OBJECT"] (by decide) _).bind fun _ =>
      .ite (fun _ => Firm.precision? _) fun _ => Firm.length? _

theorem Firm.brackets : Firm v n brackets brackets := by
  intro d
  have bracket := (Firm.whole (v := v) (n := n)).attempt.bind fun _ => Firm.mark "]" (by decide)
  have := Extends.many (apart_mark "[" (by decide)) (bracket d)
  simp only [bind_assoc] at this
  exact this.bind fun _ => .pure _

theorem Closing.modifiers : ∀ {k m : Nat}, k ≤ m → Closing v k (modifiers k) (modifiers m)
  | 0, _, _ => fun _ => .none_below
  | k + 1, 0, fewer => absurd fewer (Nat.not_succ_le_zero k)
  | k + 1, m + 1, fewer => fun d => by
    have rest := Closing.modifiers (Nat.le_of_succ_le_succ fewer) d
    refine .next_bind (fun h => absurd h (Nat.succ_ne_zero d)) .fail ?_ fun t _ closes _ => ?_
    · rintro c ⟨⟩
      exact .pure _
    · split
      · exact absurd rfl closes
      · exact rest
      · exact rest
      · exact rest
      · exact rest
      · exact .fail

/-- A type, and what is read then. Nothing may be read from a custom type that has gone on into the
tail. -/
theorem Extends.nestedType_bind {α : Type} {firm : Prop} {e : Nat} {k m : Nat} (fewer : k ≤ m)
    {f g : TypeSort × Bool → Parser α} (next : ∀ x, Extends v (k - 1) firm d e (f x) (g x))
    (stray : firm → d = 0 → ∀ rest,
      g (.custom, false) (.word "events" "EVENTS" false :: rest) = none) :
    Extends v k firm d e (Parser.nestedType k >>= f) (Parser.nestedType m >>= g) := by
  induction k generalizing m f g with
  | zero => exact .none_below
  | succ k ih =>
    obtain ⟨m, rfl⟩ : ∃ m', m = m' + 1 := ⟨m - 1, by omega⟩
    have next' {b : Nat} (fewer : b ≤ k) (x : TypeSort × Bool) : Extends v b firm d e
        (Parser.brackets >>= fun found => f (if found then .known else x.1, x.2))
        (Parser.brackets >>= fun found => g (if found then .known else x.1, x.2)) :=
      (Firm.brackets.here).bind fun _ => (next _).weaken id fewer
    rw [Parser.nestedType, Parser.nestedType]
    dsimp only
    simp only [bind_assoc]
    refine .peek?_look (fun none_open => .inr ⟨rfl, fun strict t rest h => ?_⟩) fun t => ?_
    · exact Tail.cases_start h (fun _ => rfl) fun _ => stray strict none_open _
    · split
      · simp only [pure_bind]
        split
        · simp only [bind_assoc, pure_bind]
          exact .passes (by simp) (by simp) <|
            (Firm.shape _).here.bind fun _ => next' (by omega) (_, _)
        · simp only [bind_assoc, pure_bind]
          exact .passes (by simp) (by simp) <|
            Firm.characterType.here.bind fun _ => next' (by omega) (_, _)
        · simp only [bind_assoc, pure_bind]
          exact .passes (by simp) (by simp) <|
            Firm.characterType.here.bind fun _ => next' (by omega) (_, _)
        · simp only [bind_assoc, pure_bind]
          exact .passes (by simp) (by simp) <|
            (Firm.keyword? "PRECISION" (by decide)).here.bind fun _ => next' (by omega) (_, _)
        · simp only [bind_assoc, pure_bind]
          exact .passes (by simp) (by simp) <|
            Firm.whole.inner.parens.here.bind fun _ => next' (by omega) (_, _)
        · simp only [bind_assoc, pure_bind]
          refine .passes (by simp) (by simp) <|
            (Inner.parens ?_).here.bind fun _ => next' (by omega) (_, _)
          exact Firm.whole.inner.bind fun _ => Inner.comma?.bind fun _ _ =>
            .ite (fun _ => (Firm.textLiteral _).bind fun _ => .pure _) fun _ => .pure _
        · simp only [bind_assoc, pure_bind]
          exact .passes (by simp) (by simp) (next' (by omega) (_, _))
        · simp only [bind_assoc]
          refine .passes (by simp) (by simp) <| (Firm.mark "<" (by decide)).here.bind fun _ => ?_
          refine ih (by omega) (fun x => Extends.weaken ?_ id (Nat.sub_le k 1)) fun _ _ _ => rfl
          obtain ⟨_, closed⟩ := x
          cases closed
          · simp only [Bool.false_eq_true, ↓reduceIte, bind_assoc]
            refine (Firm.mark? ">" (by decide)).here.bind fun _ => .ite_bind (fun _ => ?_) fun _ => ?_
            · simp only [bind_assoc, pure_bind]
              exact next' (by omega) (_, _)
            · simp only [bind_assoc, pure_bind]
              exact (Firm.mark ">>" (by decide)).here.bind fun _ => next' (by omega) (_, _)
          · simp only [↓reduceIte, bind_assoc, pure_bind]
            exact next' (by omega) (_, _)
        · refine .stays ?_
          simp only [bind_assoc]
          refine .path_bind (fun _ => .opening? ?_ ?_) fun strict none_open _ _ => stray strict none_open _
          · simp only [↓reduceIte, bind_assoc, pure_bind]
            exact .fuel_then fun _ _ bound fewer =>
              (Closing.modifiers fewer).here.bind fun _ => next' bound (_, _)
          · simp only [Bool.false_eq_true, ↓reduceIte, bind_assoc, pure_bind]
            exact next' (by omega) (_, _)
      · exact .stays .fail_bind

theorem Steady.typeName : Steady v n typeName typeName := by
  intro d
  rw [Parser.typeName]
  refine .fuel_then fun _ _ bound fewer => ?_
  exact .nestedType_bind fewer (fun _ => .ite (fun _ => .fail) fun _ => .pure _)
    fun inside none_open => absurd none_open inside

theorem Extends.typeName_bind {α : Type} {firm : Prop} {e : Nat} {f g : TypeSort → Parser α}
    (next : ∀ x, Extends v (n - 1) firm d e (f x) (g x))
    (stray : firm → d = 0 → ∀ rest, g .custom (.word "events" "EVENTS" false :: rest) = none) :
    Extends v n firm d e (Parser.typeName >>= f) (Parser.typeName >>= g) := by
  rw [Parser.typeName]
  simp only [bind_assoc]
  refine .fuel_then fun k m bound fewer => .nestedType_bind fewer (fun x => ?_) stray
  obtain ⟨sort, extra⟩ := x
  refine .ite_bind (fun _ => .fail_bind) fun _ => ?_
  simp only [pure_bind]
  exact (next sort).weaken id (Nat.sub_le_sub_right bound 1)

end TypeName

namespace Parser

/-- Where no bracket is found, nothing is used up. -/
theorem brackets_false {ys r : List Token} (h : brackets ys = some (false, r)) : ys = r := by
  obtain ⟨found, r', many_, done⟩ := bind_some.mp h
  obtain ⟨none_, rfl⟩ := pure_some.mp done
  obtain rfl : found = [] := by simpa using none_
  change repeated _ (ys.length + 1) ys = some ([], r') at many_
  obtain ⟨first, r'', item, rest⟩ := bind_some.mp many_
  cases first with
  | some u =>
    obtain ⟨others, r₃, -, done⟩ := bind_some.mp rest
    simp [pure_some] at done
  | none =>
    obtain ⟨-, rfl⟩ := pure_some.mp rest
    obtain ⟨opened, r₃, passed, rest⟩ := bind_some.mp item
    cases opened with
    | true =>
      obtain ⟨_, _, -, rest⟩ := bind_some.mp rest
      obtain ⟨_, _, -, rest⟩ := bind_some.mp rest
      simp [pure_some] at rest
    | false =>
      obtain ⟨-, rfl⟩ := pure_some.mp rest
      cases ys with
      | nil => simpa [mark?] using passed
      | cons t ys =>
        simp only [mark?, pass?_cons] at passed
        split at passed <;> simp_all

/-- A type whose sort is an interval is that word alone. -/
theorem nestedType_interval {k : Nat} {ys r : List Token} {extra : Bool}
    (h : nestedType k ys = some ((.interval, extra), r)) :
    ∃ text quoted, ys = .word text "INTERVAL" quoted :: r := by
  cases k with
  | zero => cases h
  | succ k =>
    have ends {sort : TypeSort} {extra' : Bool} {ys' : List Token}
        (h : (do return (if ← brackets then TypeSort.known else sort, extra') :
          Parser (TypeSort × Bool)) ys' = some ((.interval, extra), r)) :
        sort = .interval ∧ ys' = r := by
      obtain ⟨found, r', brackets_, done⟩ := bind_some.mp h
      obtain ⟨is, rfl⟩ := pure_some.mp done
      cases found with
      | true => simp at is
      | false => exact ⟨by simpa using congrArg Prod.fst is, brackets_false brackets_⟩
    rw [nestedType] at h
    obtain ⟨ahead, ys', peeked, h⟩ := bind_some.mp h
    obtain ⟨rfl, rfl⟩ : ys.head? = ahead ∧ ys = ys' := by simpa using peeked
    dsimp only at h
    match ys with
    | .word text key quoted :: ys =>
      simp only [List.head?_cons, pure_bind] at h
      obtain ⟨p, is, h⟩ : ∃ p : Parser (TypeSort × Bool), p = _ ∧ p _ = some ((.interval, extra), r) :=
        ⟨_, rfl, h⟩
      split at is
      all_goals
        subst is
        obtain ⟨_, ys', passed, h⟩ := bind_some.mp h
      case h_7 =>
        obtain rfl : ys = ys' := by simpa using congrArg (Option.map Prod.snd) passed
        obtain rfl := (ends h).2
        exact ⟨text, quoted, rfl⟩
      case h_8 =>
        obtain ⟨_, _, -, h⟩ := bind_some.mp h
        obtain ⟨⟨_, closed⟩, _, -, h⟩ := bind_some.mp h
        cases closed with
        | true => cases (ends h).1
        | false =>
          obtain ⟨closed, _, -, h⟩ := bind_some.mp h
          cases closed with
          | true => cases (ends h).1
          | false =>
            obtain ⟨_, _, -, h⟩ := bind_some.mp h
            cases (ends h).1
      case h_9 =>
        obtain ⟨opened, _, -, h⟩ := bind_some.mp h
        cases opened with
        | true =>
          obtain ⟨_, _, -, h⟩ := bind_some.mp h
          obtain ⟨_, _, -, h⟩ := bind_some.mp h
          cases (ends h).1
        | false => cases (ends h).1
      all_goals
        obtain ⟨_, _, -, h⟩ := bind_some.mp h
        cases (ends h).1
    | [] => cases h
    | .number .. :: _ => cases h
    | .string .. :: _ => cases h
    | .placeholder .. :: _ => cases h
    | .mark .. :: _ => cases h
    | .custom .. :: _ => cases h
    | .stray .. :: _ => cases h

theorem typeName_interval {ys r : List Token} (h : typeName ys = some (.interval, r)) :
    ∃ text quoted, ys = .word text "INTERVAL" quoted :: r := by
  obtain ⟨_, _, got, h⟩ := bind_some.mp h
  cases got
  obtain ⟨⟨sort, extra⟩, r', named, h⟩ := bind_some.mp h
  cases extra with
  | true => cases h
  | false =>
    obtain ⟨rfl, rfl⟩ := pure_some.mp h
    exact nestedType_interval named

end Parser
end Clickstream.Sql
