import Mathlib.Algebra.Group.Nat.Defs
import Clickstream.Number.Numeral

/-! Whole numbers are read as the numbers they were written for, with zeros before them or without. -/
namespace Clickstream

theorem digitsValue_toDigits (n : Nat) : digitsValue (Nat.toDigits 10 n) = n :=
  Nat.ofDigitChars_toDigits (by decide) (by decide)

/-- Zeros before a number do not count. -/
theorem digitsValue_zeros (k : Nat) (cs : List Char) :
    digitsValue (List.replicate k '0' ++ cs) = digitsValue cs := by
  induction k with
  | zero => rfl
  | succ k ih => exact ih

/-- Zeros after it are powers of ten. -/
theorem digitsValue_append_zeros (cs : List Char) (k : Nat) :
    digitsValue (cs ++ List.replicate k '0') = digitsValue cs * 10 ^ k := by
  induction k with
  | zero => simp
  | succ k ih =>
    have last : digitsValue (cs ++ List.replicate (k + 1) '0') =
        10 * digitsValue (cs ++ List.replicate k '0') := by
      rw [List.replicate_succ', ← List.append_assoc, digitsValue, List.foldl_append]
      rfl
    rw [last, ih, Nat.pow_succ, Nat.mul_comm, Nat.mul_assoc]

/-- No digit is a sign. -/
theorem signed_digit {c : Char} (digit : c.isDigit = true) (cs : List Char) :
    signed (c :: cs) = (false, c :: cs) := by
  unfold signed
  split
  · rename_i same
    cases same
    simp at digit
  · rename_i same
    cases same
    simp at digit
  · rfl

theorem signed_digits {cs : List Char} (all : ∀ c ∈ cs, c.isDigit = true) : signed cs = (false, cs) := by
  cases cs with
  | nil => rfl
  | cons c cs => exact signed_digit (all c (by simp)) cs

theorem toString_toList (n : Nat) : (toString n).toList = Nat.toDigits 10 n := Nat.toList_repr

theorem digits_toDigits (n : Nat) : ∀ c ∈ Nat.toDigits 10 n, c.isDigit = true :=
  fun _ there => Nat.isDigit_of_mem_toDigits (by decide) (by decide) there

theorem digits_toString (n : Nat) : ∀ c ∈ (toString n).toList, c.isDigit = true :=
  toString_toList n ▸ digits_toDigits n

theorem digits?_toDigits (n : Nat) : digits? (Nat.toDigits 10 n) = some n := by
  unfold digits?
  rw [List.all_eq_true.mpr (digits_toDigits n), digitsValue_toDigits,
    List.isEmpty_eq_false_iff.mpr Nat.toDigits_ne_nil]
  rfl

/-- A number within the bound is read from its digits. -/
theorem whole?_toString {bound n : Nat} (small : n ≤ bound) : whole? bound (toString n) = some n := by
  unfold whole?
  rw [toString_toList, signed_digits (digits_toDigits n)]
  simp only [digits?_toDigits, Bool.false_eq_true, ↓reduceIte, bind, Option.bind, small]

end Clickstream
