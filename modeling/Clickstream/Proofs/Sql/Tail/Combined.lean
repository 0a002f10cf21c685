import Clickstream.Proofs.Sql.Keyword
import Clickstream.Proofs.Sql.Tail.Step
import Clickstream.Sql.Grammar.Query

/-! Readers put together from others, with a tail after what they read: lists, parentheses, names and
literals. -/
namespace Clickstream.Sql
open Sql.Parser

section Loops
variable {α β γ : Type} {v : Tail} {n d e : Nat} {firm : Prop}

/-- A look at all the tokens. -/
theorem Extends.get_bind {f g : List Token → Parser α}
    (h : ∀ ys : List Token, ys.length < n → Extends v (ys.length + 1) firm d e (f ys) (g (ys ++ v.tokens))) :
    Extends v n firm d e (do f (← get)) (do g (← get)) where
  reads {ys _ _} short ok read := (h ys short).reads (Nat.lt_succ_self _) ok read
  fails strict ys short ok stuck := (h ys short).fails strict (Nat.lt_succ_self _) ok stuck

/-- Fuel by the number of tokens: with the tail there is more of it. -/
theorem Extends.fuel_bind {f g : Nat → Parser α}
    (h : ∀ k m, k ≤ n → k ≤ m → Extends v k firm d e (f k) (g m)) :
    Extends v n firm d e (do f ((← get).length + 1)) (do g ((← get).length + 1)) :=
  .get_bind fun ys short => h (ys.length + 1) ((ys ++ v.tokens).length + 1) short (by simp)

/-- Fuel for the first of two readers. -/
theorem Extends.fuel_then {f g : Nat → Parser α} {f' g' : α → Parser β}
    (h : ∀ k m, k ≤ n → k ≤ m → Extends v k firm d e (f k >>= f') (g m >>= g')) :
    Extends v n firm d e (do f' (← f ((← get).length + 1))) (do g' (← g ((← get).length + 1))) :=
  .fuel_bind h

/-- What is read from a choice whose results are not told apart afterwards. -/
theorem Extends.option_bind {b : Prop} [Decidable b] {p q : Parser α} {x : α → β} {z : β}
    {f g : β → Parser γ} (next : ∀ a, Extends v n firm d e (f a) (g a))
    (yes : b → Extends v n firm d d p q) :
    Extends v n firm d e (if b then p >>= fun a => Pure.pure (x a) >>= f else Pure.pure z >>= f)
      (if b then q >>= fun a => Pure.pure (x a) >>= g else Pure.pure z >>= g) :=
  .ite (fun h => (yes h).bind fun a => next (x a)) fun _ => next z

theorem Extends.separated {p q : Parser α} {text : String} (apart : Apart v d (Token.isMark text)) :
    ∀ {k m : Nat}, k ≤ m → Extends v k firm d d p q →
      Extends v k firm d d (separated text p k) (separated text q m)
  | 0, _, _, _ => .none_below
  | k + 1, 0, fewer, _ => absurd fewer (Nat.not_succ_le_zero k)
  | k + 1, m + 1, fewer, h => by
    have rest : Extends v k firm d d (Parser.separated text p k) (Parser.separated text q m) :=
      .separated apart (Nat.le_of_succ_le_succ fewer) (h.weaken id (Nat.le_succ k))
    exact h.bind fun a => apart.pass?_bind (rest.bind fun _ => .pure _) (.pure _)

/-- Items with commas between them; where no parenthesis is open, the tail may go on with them. -/
theorem Inner.list {p q : Parser α} (h : Inner v n p q) : Inner v n (list p) (list q) :=
  fun d => .fuel_bind fun _ _ bound fewer =>
    .separated apart_comma_inside fewer ((h d).weaken id bound)

/-- Items with commas between them before something that must follow: where no parenthesis is open,
nothing is read without it, so the tail does not go on with them. -/
theorem Extends.items_bind {p q : Parser α} {f g : List α → Parser β} {k m : Nat} (fewer : k ≤ m)
    (loose : firm → d ≠ 0) (stuck : ∀ as, f as [] = none) (h : Extends v k firm d d p q)
    (next : ∀ as, Extends v k firm d e (f as) (g as)) :
    Extends v k firm d e (Parser.separated "," p k >>= f) (Parser.separated "," q m >>= g) := by
  induction k generalizing m f g with
  | zero => exact .none_below
  | succ k ih =>
    obtain ⟨m, rfl⟩ : ∃ m', m = m' + 1 := ⟨m - 1, by omega⟩
    simp only [Parser.separated, bind_assoc]
    refine h.bind fun a => .pass?_bind (fun none_open => ?_) (fun t rest is ok => ?_) ?_
    · exact .inr ⟨fun strict => loose strict none_open, stuck [a]⟩
    · refine ⟨d, tidy_passed rfl rfl is ok, ?_⟩
      simp only [↓reduceIte, bind_assoc, pure_bind]
      exact ih (by omega) (fun as => stuck _) (h.weaken id (Nat.le_succ k))
        fun as => (next _).weaken id (Nat.le_succ k)
    · simp only [Bool.false_eq_true, ↓reduceIte, pure_bind]
      exact next [a]

theorem Inner.parens {p q : Parser α} (h : Inner v n p q) : Firm v n (parens p) (parens q) :=
  fun d => Extends.opening.bind fun _ => (h d).bind fun _ => Extends.closing.bind fun _ => .pure _

/-- What is read again and again, each time after a token that announces it. -/
theorem Extends.many {test : Token → Bool} {p q : Parser α} (apart : Apart v d test)
    (h : Extends v n firm d d p q) :
    Extends v n firm d d (many do if ← pass? test then return some (← p) else return none)
      (many do if ← pass? test then return some (← q) else return none) := by
  refine .fuel_bind ?_
  intro k
  induction k with
  | zero => exact fun _ _ _ => .none_below
  | succ k ih =>
    rintro (_ | m) bound fewer
    · exact absurd fewer (Nat.not_succ_le_zero k)
    · have rest := ih m (by omega) (by omega)
      simp only [repeated, bind_assoc]
      refine apart.pass?_bind ?_ (.pure _)
      simp only [↓reduceIte, bind_assoc, pure_bind]
      exact (h.weaken id (by omega)).bind fun _ => rest.bind fun _ => .pure _

end Loops

section Tokens
variable {α : Type} {v : Tail} {n d : Nat} {firm : Prop}

/-- One token that is no parenthesis, and what it stands for. -/
theorem Extends.token {f : Token → Parser α} (each : ∀ t, f t = Parser.fail ∨ ∃ a, f t = Pure.pure a)
    (opens : f (.mark "(") = Parser.fail) (closes : f (.mark ")") = Parser.fail)
    (after : d = 0 → firm → f (.mark ",") = Parser.fail ∧
      f (.word "FROM" "FROM" false) = Parser.fail) :
    Extends v n firm d d (next >>= f) (next >>= f) := by
  cases n with
  | zero => exact .none_below
  | succ n =>
    refine .next_bind ?_ (opens ▸ .fail) (fun _ _ => closes ▸ .fail) fun t _ _ _ => ?_
    · intro none_open strict t rest h
      obtain ⟨t', rest', h', rfl | rfl⟩ := v.head
      · obtain ⟨rfl, rfl⟩ : Token.mark "," = t ∧ rest' = rest := by simpa [h'] using h
        rw [(after none_open strict).1]
        rfl
      · obtain ⟨rfl, rfl⟩ : Token.word "FROM" "FROM" false = t ∧ rest' = rest := by
          simpa [h'] using h
        rw [(after none_open strict).2]
        rfl
    · rcases each t with h | ⟨a, h⟩
      · exact h ▸ .fail
      · exact h ▸ .pure a

theorem Steady.name : Steady v n name name := by
  refine fun d => .token (fun t => ?_) rfl rfl fun h inside => absurd h inside
  split
  · exact .inr ⟨_, rfl⟩
  · exact .inr ⟨_, rfl⟩
  · exact .inl rfl

theorem Steady.dateField : Steady v n dateField dateField := by
  refine fun d => .token (fun t => ?_) rfl rfl fun h inside => absurd h inside
  split
  · exact .inr ⟨_, rfl⟩
  · exact .inr ⟨_, rfl⟩
  · exact .inl rfl

theorem Steady.placeholderName : Steady v n placeholderName placeholderName := by
  refine fun d => .token (fun t => ?_) rfl rfl fun h inside => absurd h inside
  split
  · exact .inr ⟨_, rfl⟩
  · exact .inr ⟨_, rfl⟩
  · exact .inl rfl

theorem Firm.textLiteral : Firm v n textLiteral textLiteral := by
  refine fun d => .token (fun t => ?_) rfl rfl fun _ _ => ⟨rfl, ?_⟩
  · split
    · exact (Classical.em _).imp (if_pos ·) fun h => ⟨_, if_neg h⟩
    all_goals first | exact .inr ⟨_, rfl⟩ | exact .inl rfl
  · exact if_pos (by simpa using Keyword.from_mem_all)

theorem Firm.whole : Firm v n whole whole := by
  refine fun d => .token (fun t => ?_) rfl rfl fun _ _ => ⟨rfl, rfl⟩
  split
  · split
    · exact (Classical.em _).symm.imp (if_neg ·) fun h => ⟨_, if_pos h⟩
    · exact .inl rfl
  · exact .inl rfl

theorem Firm.numberValue : Firm v n numberValue numberValue := by
  refine fun d => .token (fun t => ?_) rfl rfl fun _ _ => ⟨rfl, rfl⟩
  split
  · exact .inr ⟨_, rfl⟩
  · exact .inl rfl

theorem Firm.singleString : Firm v n singleString singleString := by
  refine fun d => .token (fun t => ?_) rfl rfl fun _ _ => ⟨rfl, rfl⟩
  split
  · exact .inr ⟨_, rfl⟩
  · exact .inl rfl

/-- A name in parts, and what is read then. Where a part is missing at the end of the tokens, the
word `FROM` of the tail is taken for it, and nothing may be read from what follows. -/
theorem Extends.parts_bind {e : Nat} {f g : List Name → Parser α} {k m : Nat} (fewer : k ≤ m)
    (next : ∀ x, Extends v (k - 1) firm d e (f x) (g x))
    (stray : firm → d = 0 → ∀ x rest, g x (.word "events" "EVENTS" false :: rest) = none) :
    Extends v k firm d e (Parser.separated "." Parser.name k >>= f)
      (Parser.separated "." Parser.name m >>= g) := by
  induction k generalizing m f g with
  | zero => exact .none_below
  | succ k ih =>
    obtain ⟨m, rfl⟩ : ∃ m', m = m' + 1 := ⟨m - 1, by omega⟩
    have others (part : Name) : Extends v k firm d e
        (Parser.mark? "." >>= fun more => (do
          if more then return part :: (← Parser.separated "." Parser.name k) else return [part]) >>= f)
        (Parser.mark? "." >>= fun more => (do
          if more then return part :: (← Parser.separated "." Parser.name m) else return [part]) >>= g) := by
      refine (apart_mark "." (by decide)).pass?.bind fun more => ?_
      cases more with
      | true =>
        simp only [↓reduceIte, bind_assoc, pure_bind]
        exact ih (by omega) (fun _ => (next _).weaken id (Nat.sub_le k 1))
          fun strict none_open _ => stray strict none_open _
      | false =>
        simp only [Bool.false_eq_true, ↓reduceIte, pure_bind]
        exact next _
    simp only [Parser.separated, Parser.name, bind_assoc]
    refine .next_bind ?_ .fail_bind (fun _ _ => .fail_bind) fun t _ _ _ => ?_
    · intro none_open strict t rest h
      exact Tail.cases_start h (fun _ => rfl) fun _ => stray strict none_open _ _
    · split
      · simp only [pure_bind]
        exact others _
      · simp only [pure_bind]
        exact others _
      · exact .fail_bind

theorem Extends.path_bind {e : Nat} {f g : List Name → Parser α}
    (next : ∀ x, Extends v (n - 1) firm d e (f x) (g x))
    (stray : firm → d = 0 → ∀ x rest, g x (.word "events" "EVENTS" false :: rest) = none) :
    Extends v n firm d e (Parser.path >>= f) (Parser.path >>= g) := by
  simp only [Parser.path, bind_assoc]
  exact .fuel_then fun _ _ bound fewer =>
    .parts_bind fewer (fun x => (next x).weaken id (Nat.sub_le_sub_right bound 1)) stray

theorem Steady.path : Steady v n path path := by
  intro d
  rw [← bind_pure Parser.path]
  exact .path_bind (fun _ => .pure _) fun inside none_open => absurd none_open inside

theorem Steady.value : Steady v n value value := by
  intro d
  cases n with
  | zero => exact .none_below
  | succ n =>
    refine .next_bind (fun h inside => absurd h inside) .fail (fun _ _ => .fail) fun t _ _ _ => ?_
    split
    · exact .ite (fun _ => .pure _) fun _ => .fail
    · exact .pure _
    · exact .pure _
    · exact .pure _
    · exact Steady.placeholderName d
    · exact Steady.placeholderName d
    · exact .fail

end Tokens
end Clickstream.Sql
