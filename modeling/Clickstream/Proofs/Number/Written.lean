import Mathlib.Data.List.Basic
import Clickstream.Number.Layout
import Clickstream.Proofs.Number.Shortest

/-! Finite numbers are written as numerals: digits that are no zeros only, around a point and with an
exponent where the layout has them. -/
namespace Clickstream

/-- One digit or more. -/
structure IsDigits (cs : List Char) : Prop where
  nonempty : cs ≠ []
  digits : ∀ c ∈ cs, c.isDigit = true

/-- Digits after a point, if there are any. -/
def IsFraction (cs : List Char) : Prop := cs = [] ∨ ∃ ds, IsDigits ds ∧ cs = '.' :: ds

/-- An exponent with or without a sign, if there is one. -/
def IsExponent (cs : List Char) : Prop :=
  cs = [] ∨ ∃ letter sign ds, (letter = 'e' ∨ letter = 'E') ∧ (sign = [] ∨ sign = ['-'] ∨ sign = ['+']) ∧
    IsDigits ds ∧ cs = letter :: (sign ++ ds)

/-- A number without its sign; its whole part has no zero before other digits. -/
inductive IsNumeral : List Char → Prop
  | mk {whole fraction exponent : List Char} (digits : IsDigits whole)
    (leading : whole.head? = some '0' → whole = ['0']) (fractional : IsFraction fraction)
    (scaled : IsExponent exponent) :
    IsNumeral (whole ++ fraction ++ exponent)

namespace IsDigits
variable {cs ds : List Char}

theorem append (first : IsDigits cs) (others : ∀ c ∈ ds, c.isDigit = true) : IsDigits (cs ++ ds) := by
  refine ⟨by simp [first.nonempty], fun c there => ?_⟩
  rcases List.mem_append.mp there with there | there
  · exact first.digits c there
  · exact others c there

theorem of_sublist (all : IsDigits cs) (sub : ds.Sublist cs) (nonempty : ds ≠ []) : IsDigits ds :=
  ⟨nonempty, fun c there => all.digits c (sub.mem there)⟩

theorem of_toDigits (n : Nat) : IsDigits (Nat.toDigits 10 n) :=
  ⟨Nat.toDigits_ne_nil, fun _ there => Nat.isDigit_of_mem_toDigits (by decide) (by decide) there⟩

theorem zero : IsDigits ['0'] := .of_toDigits 0

end IsDigits

theorem IsNumeral.head {cs : List Char} (numeral : IsNumeral cs) :
    ∃ d ds, cs = d :: ds ∧ d.isDigit = true := by
  obtain @⟨whole, _, _, digits, -, -, -⟩ := numeral
  obtain ⟨d, ds, rfl⟩ := List.exists_cons_of_ne_nil digits.nonempty
  exact ⟨d, _, rfl, digits.digits d (by simp)⟩

/-- The first digit of a number that is not zero is not zero. -/
theorem head?_toDigits_ne {n : Nat} (positive : 0 < n) : (Nat.toDigits 10 n).head? ≠ some '0' := by
  induction n using Nat.strongRecOn with
  | ind n ih =>
    rcases Nat.lt_or_ge n 10 with small | large
    · rw [Nat.toDigits_of_lt_base small]
      simpa using positive.ne'
    · rw [Nat.toDigits_of_base_le (by decide) large, List.head?_append_of_ne_nil _ Nat.toDigits_ne_nil]
      exact ih _ (by omega) (by omega)

/-- Whole numbers are numerals. -/
theorem IsNumeral.of_toDigits (n : Nat) : IsNumeral (Nat.toDigits 10 n) := by
  have leading (zero : (Nat.toDigits 10 n).head? = some '0') : Nat.toDigits 10 n = ['0'] := by
    rcases Nat.eq_zero_or_pos n with rfl | positive
    · rfl
    · exact absurd zero (head?_toDigits_ne positive)
  have := IsNumeral.mk (IsDigits.of_toDigits n) leading (.inl rfl) (.inl rfl)
  simpa using this

namespace Layout
variable (layout : Layout)

private theorem zeros_digits (n : Nat) : ∀ c ∈ List.replicate n '0', c.isDigit = true := by
  intro c there
  rw [List.eq_of_mem_replicate there]
  rfl

private theorem positional_isNumeral {digits : List Char} (all : IsDigits digits) (power : Int)
    (leading : digits.head? = some '0' → digits = ['0'] ∧ power ≤ 0) :
    IsNumeral (layout.positional digits power) := by
  unfold positional
  simp only
  split
  · rename_i up
    have point : IsFraction (if layout.keepsPoint = true then ['.', '0'] else []) := by
      cases layout.keepsPoint
      · exact .inl rfl
      · exact .inr ⟨['0'], .zero, rfl⟩
    have := IsNumeral.mk (all.append (zeros_digits power.toNat)) ?_ point (.inl rfl)
    · simpa using this
    · intro zero
      rw [List.head?_append_of_ne_nil _ all.nonempty] at zero
      obtain ⟨rfl, down⟩ := leading zero
      have none_ : power.toNat = 0 := by omega
      simp [none_]
  · rename_i down
    have places : 0 < (-power).toNat := by omega
    split
    · rename_i inside
      have before : digits.length - (-power).toNat ≠ 0 := by omega
      have := IsNumeral.mk (all.of_sublist (List.take_sublist (digits.length - (-power).toNat) _) ?_) ?_
        (.inr ⟨_, all.of_sublist (List.drop_sublist (digits.length - (-power).toNat) _) ?_, rfl⟩)
        (.inl rfl)
      · simpa using this
      · simp [all.nonempty, before]
      · rw [List.head?_take, if_neg before]
        intro zero
        obtain ⟨rfl, -⟩ := leading zero
        simp at inside
        omega
      · simp only [ne_eq, List.drop_eq_nil_iff, not_le]
        omega
    · have places : IsDigits (List.replicate ((-power).toNat - digits.length) '0' ++ digits) := by
        refine ⟨by simp [all.nonempty], fun c there => ?_⟩
        rcases List.mem_append.mp there with there | there
        · exact zeros_digits _ c there
        · exact all.digits c there
      have := IsNumeral.mk .zero (fun _ => rfl) (.inr ⟨_, places, rfl⟩) (.inl rfl)
      simpa using this

private theorem scientific_isNumeral {digits : List Char} (all : IsDigits digits) (first : Int) :
    IsNumeral (layout.scientific digits first) := by
  obtain ⟨d, ds, rfl⟩ := List.exists_cons_of_ne_nil all.nonempty
  have one : IsDigits [d] := all.of_sublist (by simp) (by simp)
  have fractional : IsFraction (if (d :: ds).length ≤ 1 then [] else '.' :: (d :: ds).drop 1) := by
    cases ds with
    | nil => exact .inl rfl
    | cons c cs => exact .inr ⟨c :: cs, all.of_sublist (List.sublist_cons_self ..) (by simp), by simp⟩
  have signed : ∀ sign, sign = (if first < 0 then ['-'] else if layout.signsExponent then ['+'] else []) →
      sign = [] ∨ sign = ['-'] ∨ sign = ['+'] := by
    rintro _ rfl
    split
    · simp
    · split <;> simp
  have := IsNumeral.mk one (by simp) fractional
    (.inr ⟨'e', _, _, .inl rfl, signed _ rfl, .of_toDigits first.natAbs, rfl⟩)
  simpa only [scientific, List.take_succ_cons, List.take_zero, List.append_assoc, List.cons_append,
    List.nil_append] using this

/-- Finite numbers are written as numerals, whatever the layout is. -/
theorem unsigned_isNumeral {mantissa : Nat} {exponent : Int}
    (canonical : CanonicalParts mantissa exponent) : IsNumeral (layout.unsigned mantissa exponent) := by
  unfold unsigned
  simp only
  split
  · exact layout.positional_isNumeral .zero 0 fun _ => ⟨rfl, le_refl _⟩
  · rename_i nonzero
    have positive := Binary64.shortest_pos nonzero canonical layout.tie
    split
    · exact layout.positional_isNumeral (.of_toDigits _) _ fun zero =>
        absurd zero (head?_toDigits_ne positive)
    · exact layout.scientific_isNumeral (.of_toDigits _) _

end Layout
end Clickstream
