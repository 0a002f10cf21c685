import Clickstream.Sql.Parser

/-! What a reader makes of tokens when more tokens come after them. In parentheses nothing changes;
at the end of the tokens a reading that succeeded still does, and stops where it stopped. -/
namespace Clickstream.Sql

/-- What stands after an item of a compiled select: a comma, or the clause that names the relation. -/
structure Tail where
  tokens : List Token
  starts : (∃ rest, tokens = .mark "," :: rest) ∨
    ∃ rest, tokens = .word "FROM" "FROM" false :: .word "events" "EVENTS" false :: rest

/-- Words after which tokens are read that may be anything: those that begin queries, and the one
before an operator in parentheses. -/
def looseWords : List String := ["SELECT", "VALUES", "TABLE", "INSERT", "UPDATE", "OPERATOR"]

/-- After the word `FILTER` a parenthesis must open a condition. -/
def filterFits : List Token → Bool
  | .mark text :: rest => text != "(" || rest.head?.any (Token.isKeyword "WHERE")
  | _ => true

/-- The tokens close `depth` parentheses more than they open, each after it was opened, and hold no
word after which that might be read otherwise. -/
def tidy : Nat → List Token → Bool
  | depth, [] => depth == 0
  | depth, token :: rest =>
    !looseWords.any token.isKeyword && (!token.isKeyword "FILTER" || filterFits rest) &&
      if token = .mark "(" then tidy (depth + 1) rest
      else if token = .mark ")" then
        match depth with
        | 0 => false
        | depth + 1 => tidy depth rest
      else tidy depth rest

section Tidy
variable {d : Nat} {token : Token} {rest : List Token}

theorem tidy_nil : tidy d [] = true ↔ d = 0 := by simp [tidy]

theorem tidy_open (h : tidy d (.mark "(" :: rest) = true) : tidy (d + 1) rest = true := by
  simp only [tidy, Bool.and_eq_true, ↓reduceIte] at h
  exact h.2

theorem tidy_close (h : tidy (d + 1) (.mark ")" :: rest) = true) : tidy d rest = true := by
  simp only [tidy, Bool.and_eq_true, Token.mark.injEq, String.reduceEq, ↓reduceIte] at h
  exact h.2

theorem not_tidy_close : tidy 0 (.mark ")" :: rest) = false := by
  simp [tidy]

theorem tidy_other (h : tidy d (token :: rest) = true) (opens : token ≠ .mark "(")
    (closes : token ≠ .mark ")") : tidy d rest = true := by
  simp only [tidy, Bool.and_eq_true, opens, closes, ↓reduceIte] at h
  exact h.2

theorem tidy_word {key : String} (h : tidy d (token :: rest) = true) (loose : key ∈ looseWords) :
    token.isKeyword key = false := by
  cases is : token.isKeyword key with
  | false => rfl
  | true =>
    have : looseWords.any token.isKeyword = true := List.any_eq_true.mpr ⟨key, loose, by simpa using is⟩
    simp [tidy, this] at h

theorem tidy_keyword {key : String} (h : tidy d (token :: rest) = true)
    (is : token.isKeyword key = true) : tidy d rest = true := by
  refine tidy_other h ?_ ?_ <;> rintro rfl <;> simp [Token.isKeyword] at is

/-- What follows the word `FILTER`: a condition in parentheses, or no parenthesis. -/
theorem tidy_filter (h : tidy d (token :: rest) = true) (is : token.isKeyword "FILTER" = true) :
    (∃ t rest', rest = .mark "(" :: t :: rest' ∧ t.isKeyword "WHERE" = true ∧
      tidy (d + 1) rest' = true) ∨ rest.head? ≠ some (.mark "(") ∧ tidy d rest = true := by
  have after : tidy d rest = true := tidy_keyword h is
  have fits : filterFits rest = true := by
    simp only [tidy, is, Bool.not_true, Bool.false_or, Bool.and_eq_true] at h
    exact h.1.2
  by_cases opens : rest.head? = some (.mark "(")
  · left
    obtain ⟨rest', rfl⟩ := List.head?_eq_some_iff.mp opens
    cases rest' with
    | nil => simp [filterFits] at fits
    | cons t rest' =>
      have where_ : t.isKeyword "WHERE" = true := by simpa [filterFits] using fits
      refine ⟨t, rest', rfl, where_, tidy_keyword (tidy_open after) where_⟩
  · exact .inr ⟨opens, after⟩

theorem tidy_ne_nil {ys : List Token} (h : tidy (d + 1) ys = true) : ys ≠ [] := by
  rintro rfl
  simp [tidy] at h

end Tidy

/-- From fewer than `n` tokens that close `d` parentheses, `q` reads with the tail after them what `p`
reads without, and leaves tokens that close `e` parentheses, and the tail. If the two are firm, then
`q` fails too where `p` fails. -/
structure Extends {α : Type} (v : Tail) (n : Nat) (firm : Prop) (d e : Nat) (p q : Parser α) :
    Prop where
  reads : ∀ {ys a r}, ys.length < n → tidy d ys = true → p ys = some (a, r) →
    q (ys ++ v.tokens) = some (a, r ++ v.tokens) ∧ r.length ≤ ys.length ∧ tidy e r = true
  fails : firm → ∀ {ys}, ys.length < n → tidy d ys = true → p ys = none →
    q (ys ++ v.tokens) = none

/-- Readers that leave as many parentheses open as they find. Where none is open, the second may
read where the first fails. -/
def Steady {α : Type} (v : Tail) (n : Nat) (p q : Parser α) : Prop :=
  ∀ d, Extends v n (d ≠ 0) d d p q

/-- Readers that are steady, and fail alike even where no parenthesis is open. -/
def Firm {α : Type} (v : Tail) (n : Nat) (p q : Parser α) : Prop :=
  ∀ d, Extends v n True d d p q

/-- Readers that are steady in parentheses, which they leave open. -/
def Inner {α : Type} (v : Tail) (n : Nat) (p q : Parser α) : Prop :=
  ∀ d, Extends v n True (d + 1) (d + 1) p q

/-- Readers from inside a parenthesis to what closes it. -/
def Closing {α : Type} (v : Tail) (n : Nat) (p q : Parser α) : Prop :=
  ∀ d, Extends v n True (d + 1) d p q

/-- Readers from inside a parenthesis to behind what closes it. -/
def Ending {α : Type} (v : Tail) (n : Nat) (p q : Parser α) : Prop :=
  ∀ d, Extends v n (d ≠ 0) (d + 1) d p q

section Rules
variable {α β γ : Type} {v : Tail} {n m d e c : Nat} {firm : Prop}

theorem Parser.bind_some {p : Parser α} {f : α → Parser β} {ys r : List Token} {b : β} :
    (p >>= f) ys = some (b, r) ↔ ∃ a ys', p ys = some (a, ys') ∧ f a ys' = some (b, r) := by
  change (p ys).bind (fun x => f x.1 x.2) = _ ↔ _
  rcases p ys with _ | ⟨a, ys'⟩
  · simp
  · refine ⟨fun read => ⟨a, ys', rfl, read⟩, ?_⟩
    rintro ⟨_, _, ⟨⟩, read⟩
    exact read

theorem Parser.bind_none {p : Parser α} {f : α → Parser β} {ys : List Token} :
    (p >>= f) ys = none ↔ ∀ a ys', p ys = some (a, ys') → f a ys' = none := by
  change (p ys).bind (fun x => f x.1 x.2) = _ ↔ _
  rcases p ys with _ | ⟨a, ys'⟩ <;> simp

theorem Parser.bind_of_some {p : Parser α} {a : α} {ys r : List Token} (h : p ys = some (a, r))
    (f : α → Parser β) : (p >>= f) ys = f a r := by
  change (p ys).bind (fun x => f x.1 x.2) = _
  rw [h]
  rfl

theorem Parser.pure_some {a b : α} {ys r : List Token} :
    (pure a : Parser α) ys = some (b, r) ↔ a = b ∧ ys = r := by
  change some (a, ys) = some (b, r) ↔ _
  simp

namespace Extends
variable {p q : Parser α} {f g : α → Parser β}

theorem weaken {firm' : Prop} (h : Extends v n firm d e p q) (weaker : firm' → firm)
    (fewer : m ≤ n) : Extends v m firm' d e p q where
  reads short := h.reads (by omega)
  fails strict _ short := h.fails (weaker strict) (by omega)

theorem bind (h : Extends v n firm d c p q) (next : ∀ a, Extends v n firm c e (f a) (g a)) :
    Extends v n firm d e (p >>= f) (q >>= g) where
  reads {ys b r} short ok read := by
    obtain ⟨a, ys', first, second⟩ := Parser.bind_some.mp read
    obtain ⟨first', shorter, ok'⟩ := h.reads short ok first
    obtain ⟨second', shorter', ok''⟩ := (next a).reads (by omega) ok' second
    exact ⟨Parser.bind_some.mpr ⟨a, _, first', second'⟩, by omega, ok''⟩
  fails strict ys short ok stuck := by
    cases first : p ys with
    | none =>
      have := h.fails strict short ok first
      exact Parser.bind_none.mpr (by simp [this])
    | some x =>
      obtain ⟨a, ys'⟩ := x
      obtain ⟨first', shorter, ok'⟩ := h.reads short ok first
      have second := Parser.bind_none.mp stuck a ys' first
      have second' := (next a).fails strict (by omega) ok' second
      rw [Parser.bind_none]
      rintro b zs read
      rw [first'] at read
      cases read
      exact second'

/-- Readers that come down to others, each from what is left of the tokens. -/
theorem of_steps (h : ∀ {ys}, ys.length < n → tidy d ys = true → ∃ c r, ∃ p' q' : Parser α,
      p ys = p' r ∧ q (ys ++ v.tokens) = q' (r ++ v.tokens) ∧ r.length ≤ ys.length ∧
        tidy c r = true ∧ Extends v (r.length + 1) firm c e p' q') :
    Extends v n firm d e p q where
  reads short ok read := by
    obtain ⟨c, r, p', q', left, right, shorter, ok', h'⟩ := h short ok
    rw [left] at read
    obtain ⟨read', shorter', ok''⟩ := h'.reads (Nat.lt_succ_self _) ok' read
    exact ⟨right.trans read', Nat.le_trans shorter' shorter, ok''⟩
  fails strict _ short ok stuck := by
    obtain ⟨c, r, p', q', left, right, shorter, ok', h'⟩ := h short ok
    rw [left] at stuck
    exact right.trans (h'.fails strict (Nat.lt_succ_self _) ok' stuck)

theorem pure (a : α) : Extends v n firm d d (Pure.pure a : Parser α) (Pure.pure a) where
  reads {ys b r} _ ok read := by
    obtain ⟨rfl, rfl⟩ := Parser.pure_some.mp read
    exact ⟨rfl, Nat.le_refl _, ok⟩
  fails _ _ _ _ stuck := by cases stuck

theorem fail : Extends v n firm d e (Parser.fail : Parser α) Parser.fail where
  reads _ _ read := by cases read
  fails _ _ _ _ _ := rfl

/-- Nothing is read from a reader that fails. -/
theorem fail_bind : Extends v n firm d e (Parser.fail >>= f) (Parser.fail >>= g) where
  reads _ _ read := by cases read
  fails _ _ _ _ _ := rfl

theorem ite {b : Prop} [Decidable b] {p' q' : Parser α} (yes : b → Extends v n firm d e p q)
    (no : ¬ b → Extends v n firm d e p' q') :
    Extends v n firm d e (if b then p else p') (if b then q else q') := by
  by_cases h : b
  · rw [if_pos h, if_pos h]
    exact yes h
  · rw [if_neg h, if_neg h]
    exact no h

theorem ite_bind {b : Prop} [Decidable b] {p' q' : Parser α}
    (yes : b → Extends v n firm d e (p >>= f) (q >>= g))
    (no : ¬ b → Extends v n firm d e (p' >>= f) (q' >>= g)) :
    Extends v n firm d e ((if b then p else p') >>= f) ((if b then q else q') >>= g) := by
  by_cases h : b
  · rw [if_pos h, if_pos h]
    exact yes h
  · rw [if_neg h, if_neg h]
    exact no h

end Extends

section Kinds
variable {p q : Parser α} {f g : α → Parser β}

theorem Firm.here (h : Firm v n p q) : Extends v n firm d d p q :=
  (h d).weaken (fun _ => trivial) (Nat.le_refl n)

theorem Inner.here (h : Inner v n p q) : Extends v n firm (d + 1) (d + 1) p q :=
  (h d).weaken (fun _ => trivial) (Nat.le_refl n)

theorem Closing.here (h : Closing v n p q) : Extends v n firm (d + 1) d p q :=
  (h d).weaken (fun _ => trivial) (Nat.le_refl n)

theorem Firm.steady (h : Firm v n p q) : Steady v n p q :=
  fun d => (h d).weaken (fun _ => trivial) (Nat.le_refl n)

theorem Steady.inner (h : Steady v n p q) : Inner v n p q :=
  fun d => (h (d + 1)).weaken (fun _ => Nat.succ_ne_zero d) (Nat.le_refl n)

theorem Firm.inner (h : Firm v n p q) : Inner v n p q := h.steady.inner

theorem Firm.bind (h : Firm v n p q) (next : ∀ a, Firm v n (f a) (g a)) :
    Firm v n (p >>= f) (q >>= g) :=
  fun d => (h d).bind fun a => next a d

theorem Steady.bind (h : Steady v n p q) (next : ∀ a, Steady v n (f a) (g a)) :
    Steady v n (p >>= f) (q >>= g) :=
  fun d => (h d).bind fun a => next a d

theorem Inner.bind (h : Inner v n p q) (next : ∀ a, Inner v n (f a) (g a)) :
    Inner v n (p >>= f) (q >>= g) :=
  fun d => (h d).bind fun a => next a d

end Kinds
end Rules
end Clickstream.Sql
