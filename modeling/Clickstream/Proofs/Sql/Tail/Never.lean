import Clickstream.Proofs.Sql.Tail.Combined

/-! Readers that find nothing in tidy tokens in parentheses, with a tail after them or without. -/
namespace Clickstream.Sql
open Sql.Parser

/-- Nothing is read in parentheses, with the tail or without. -/
def Never {α : Type} (v : Tail) (n : Nat) (p q : Parser α) : Prop :=
  ∀ d {ys}, ys.length < n → tidy (d + 1) ys = true → p ys = none ∧ q (ys ++ v.tokens) = none

section Never
variable {α β : Type} {v : Tail} {n : Nat}

theorem Never.empty {p q : Parser α} {f g : α → Parser β} (h : Never v n p q) {d e : Nat} {firm : Prop} :
    Extends v n firm (d + 1) e (p >>= f) (q >>= g) where
  reads {ys a r} short ok read := by
    obtain ⟨b, ys', first, -⟩ := Parser.bind_some.mp read
    rw [(h d short ok).1] at first
    cases first
  fails _ ys short ok _ := by
    rw [Parser.bind_none]
    intro b ys' first
    rw [(h d short ok).2] at first
    cases first

theorem Never.fail : Never v n (Parser.fail : Parser α) Parser.fail := fun _ _ _ _ => ⟨rfl, rfl⟩

theorem Never.bind {p q : Parser α} {f g : α → Parser β} (h : Never v n p q) :
    Never v n (p >>= f) (q >>= g) := by
  intro d ys short ok
  obtain ⟨left, right⟩ := h d short ok
  constructor
  · exact Parser.bind_none.mpr (by simp [left])
  · exact Parser.bind_none.mpr (by simp [right])

/-- What follows a reader that stays in parentheses. -/
theorem Inner.bind_never {p q : Parser α} {f g : α → Parser β} (h : Inner v n p q)
    (next : ∀ a, Never v n (f a) (g a)) : Never v n (p >>= f) (q >>= g) := by
  intro d ys short ok
  cases first : p ys with
  | none =>
    have right := (h d).fails trivial short ok first
    exact ⟨Parser.bind_none.mpr (by simp [first]), Parser.bind_none.mpr (by simp [right])⟩
  | some x =>
    obtain ⟨a, r⟩ := x
    obtain ⟨right, shorter, ok'⟩ := (h d).reads short ok first
    obtain ⟨left', right'⟩ := next a d (Nat.lt_of_le_of_lt shorter short) ok'
    refine ⟨Parser.bind_none.mpr ?_, Parser.bind_none.mpr ?_⟩
    · rintro b zs again
      obtain ⟨rfl, rfl⟩ : a = b ∧ r = zs := by simpa [first] using again
      exact left'
    · rintro b zs again
      obtain ⟨rfl, rfl⟩ : a = b ∧ r ++ v.tokens = zs := by simpa [right] using again
      exact right'

theorem Never.ite {b : Prop} [Decidable b] {p q p' q' : Parser α} (yes : Never v n p q)
    (no : Never v n p' q') : Never v n (if b then p else p') (if b then q else q') := by
  split
  · exact yes
  · exact no

/-- A word that tidy tokens do not hold. -/
theorem Never.absent {key : String} (loose : key ∈ looseWords) {f g : Bool → Parser α}
    (no : Never v n (f false) (g false)) : Never v n (keyword? key >>= f) (keyword? key >>= g) := by
  intro d ys short ok
  cases ys with
  | nil => exact absurd rfl (tidy_ne_nil ok)
  | cons t ys =>
    have other := tidy_word ok loose
    obtain ⟨left, right⟩ := no d short ok
    constructor
    · exact ((Parser.pass?_bind_cons _ t ys f).trans (if_neg (by simp [other]))).trans left
    · exact ((Parser.pass?_bind_cons _ t (ys ++ v.tokens) g).trans (if_neg (by simp [other]))).trans right

theorem Never.opening? {f g : Bool → Parser α} (yes : Never v n (f true) (g true))
    (no : Never v n (f false) (g false)) : Never v n (mark? "(" >>= f) (mark? "(" >>= g) := by
  intro d ys short ok
  cases ys with
  | nil => exact absurd rfl (tidy_ne_nil ok)
  | cons t ys =>
    by_cases is : t = .mark "("
    · subst is
      exact yes (d + 1) (Nat.lt_of_succ_lt short) (tidy_open ok)
    · obtain ⟨left, right⟩ := no d short ok
      constructor
      · exact (Parser.mark?_bind_other (by simpa using is) f).trans left
      · exact (Parser.mark?_bind_other (by simpa using is) g).trans right

theorem Never.parens {p q : Parser α} (h : Never v n p q) : Never v n (parens p) (parens q) := by
  simp only [Parser.parens, Parser.mark, bind_assoc]
  exact .opening? (by simpa using h.bind) .fail

theorem Never.list {p q : Parser α} (h : Never v n p q) : Never v n (list p) (list q) := by
  intro d ys short ok
  obtain ⟨left, right⟩ := h d short ok
  change separated "," p (ys.length + 1) ys = none ∧
    separated "," q ((ys ++ v.tokens).length + 1) (ys ++ v.tokens) = none
  exact ⟨Parser.bind_none.mpr (by simp [left]), Parser.bind_none.mpr (by simp [right])⟩

end Never
end Clickstream.Sql
