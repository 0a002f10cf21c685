import Clickstream.Proofs.Number.Nearest

/-! Sums, products and quotients of binary64 numbers are the exact ones rounded. -/
namespace Clickstream.Binary64

section Exact
variable {mantissa other num den : ℕ} {exponent exponent' : ℤ}

/-- A short natural number times a power of two is a binary64 number. -/
theorem ofNat_exact {short k : ℕ} (width : short < 1 <<< 53) (small : k ≤ 900) :
    ∃ m e h, ofNat (short * 2 ^ k) = .finite false m e h ∧ (m * 2 ^ e : ℚ) = (short * 2 ^ k : ℕ) := by
  rcases Nat.eq_zero_or_pos short with rfl | positive
  · refine ⟨0, -1074, by decide, ?_, by simp⟩
    rw [Nat.zero_mul]
    rfl
  have most : short.log2 ≤ 52 := by
    have := (Nat.log2_lt positive.ne').mpr (show short < 2 ^ 53 from width)
    omega
  have bits : 2 ^ short.log2 * 2 ^ (52 - short.log2) = 1 <<< 52 := by
    rw [← pow_add, Nat.add_sub_cancel' most]
    rfl
  have canonical : CanonicalParts (short * 2 ^ (52 - short.log2)) (k - (52 - short.log2 : ℕ)) := by
    refine ⟨?_, by omega, by omega, .inl ?_⟩
    · calc short * 2 ^ (52 - short.log2) < 2 ^ (short.log2 + 1) * 2 ^ (52 - short.log2) :=
            Nat.mul_lt_mul_of_pos_right Nat.lt_log2_self (by positivity)
        _ = 2 * (2 ^ short.log2 * 2 ^ (52 - short.log2)) := by ring
        _ = 1 <<< 53 := by rw [bits]; rfl
    · rw [← bits]
      exact Nat.mul_le_mul_right _ (Nat.log2_self_le positive.ne')
  have value : ((short * 2 ^ (52 - short.log2) : ℕ) * 2 ^ ((k : ℤ) - (52 - short.log2 : ℕ)) : ℚ) =
      (short * 2 ^ k : ℕ) := by
    push_cast
    rw [zpow_sub₀ two_ne_zero, zpow_natCast, zpow_natCast]
    field_simp
  refine ⟨_, _, canonical, ?_, value⟩
  exact round_exact one_pos canonical (by rw [Nat.cast_one, div_one, value]) false

theorem div_eq_round {negative negative' : Bool} {h : CanonicalParts mantissa exponent}
    {h' : CanonicalParts other exponent'} (nonzero : 0 < other) (hden : 0 < den)
    (exact_ : (mantissa * 2 ^ exponent / (other * 2 ^ exponent') : ℚ) = num / den) :
    div (.finite negative mantissa exponent h) (.finite negative' other exponent' h') =
      round (negative != negative') num den := by
  have divisor := ratio_eq other exponent'
  have positive := ratio_num_pos nonzero exponent'
  rw [div, if_neg nonzero.ne']
  refine round_congr (Nat.mul_pos (ratio_den_pos _ _) positive) hden ?_ _
  rw [← exact_, ← divisor, ← ratio_eq mantissa exponent]
  push_cast
  rw [div_div_div_eq]

theorem mul_eq_round (negative negative' : Bool) (h : CanonicalParts mantissa exponent)
    (h' : CanonicalParts other exponent') : ∃ num den : ℕ, 0 < den ∧
      (num / den : ℚ) = mantissa * 2 ^ exponent * (other * 2 ^ exponent') ∧
      mul (.finite negative mantissa exponent h) (.finite negative' other exponent' h') =
        round (negative != negative') num den := by
  refine ⟨_, _, ratio_den_pos (mantissa * other) (exponent + exponent'), ?_, rfl⟩
  rw [ratio_eq, zpow_add₀ two_ne_zero]
  push_cast
  ring

theorem add_eq_round (h : CanonicalParts mantissa exponent) (h' : CanonicalParts other exponent') :
    ∃ num den : ℕ, 0 < den ∧ (num / den : ℚ) = mantissa * 2 ^ exponent + other * 2 ^ exponent' ∧
      add (.finite false mantissa exponent h) (.finite false other exponent' h') = round false num den := by
  have first := ratio_den_pos mantissa exponent
  have second := ratio_den_pos other exponent'
  refine ⟨(ratio mantissa exponent).1 * (ratio other exponent').2 +
    (ratio other exponent').1 * (ratio mantissa exponent).2, _, Nat.mul_pos first second, ?_, ?_⟩
  · rw [← ratio_eq mantissa exponent, ← ratio_eq other exponent']
    push_cast
    field_simp
  · unfold add
    simp only [Bool.false_eq_true, if_false, Bool.and_self]
    split
    · rename_i zero_
      have : (ratio mantissa exponent).1 * (ratio other exponent').2 +
        (ratio other exponent').1 * (ratio mantissa exponent).2 = 0 := by exact_mod_cast zero_
      rw [this]
      rfl
    · congr 1

/-- Of a number less than a half away from a whole one the nearest integer is that one. -/
theorem roundHalfAway_eq {negative : Bool} {h : CanonicalParts mantissa exponent} {n : ℕ}
    (near : |(mantissa * 2 ^ exponent - n : ℚ)| < 1 / 2) :
    roundHalfAway (.finite negative mantissa exponent h) = round negative n 1 := by
  have value := ratio_eq mantissa exponent
  rw [roundHalfAway, roundQuotient_eq (ratio_den_pos _ _) (by rwa [value])]

end Exact
end Clickstream.Binary64
