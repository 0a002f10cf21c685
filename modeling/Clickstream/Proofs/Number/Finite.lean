import Clickstream.Proofs.Number.Decoded

/-! Integers of 64 bits and decimals are finite as binary64 numbers: nothing on their way overflows. -/
namespace Clickstream

namespace Binary64

private theorem two_canonical {k : ℕ} (most : k ≤ 900) : CanonicalParts (1 <<< 52) (k - 52) :=
  ⟨by decide, by omega, by omega, .inl (Nat.le_refl _)⟩

private theorem two_value (k : ℕ) : ((1 <<< 52 : ℕ) * 2 ^ (k - 52 : ℤ) : ℚ) = 2 ^ k := by
  rw [cast_shift, ← zpow_add₀ two_ne_zero, ← zpow_natCast]
  congr 1
  push_cast
  ring

private theorem two_below {x : ℚ} {k : ℕ} (below : x ≤ 2 ^ k) :
    x < ((1 <<< 52 : ℕ) + 1 / 2) * 2 ^ (k - 52 : ℤ) := by
  have half : (0 : ℚ) < 1 / 2 * 2 ^ (k - 52 : ℤ) := by positivity
  rw [add_mul, two_value]
  linarith

section Powers
variable {x y : Binary64} {j k : ℕ}

/-- What is no more than a power of two is rounded to no more than it. -/
theorem Within.round_two {num den : ℕ} (positive : 0 < den) (most : k ≤ 900) (below : (num / den : ℚ) ≤ 2 ^ k) :
    (Binary64.round false num den).Within (2 ^ k) := by
  rw [← two_value]
  exact .round positive (two_canonical most) (two_below below)

theorem isFinite_round {negative : Bool} {num den : ℕ} (positive : 0 < den) (most : k ≤ 900)
    (below : (num / den : ℚ) ≤ 2 ^ k) : (Binary64.round negative num den).isFinite = true := by
  obtain ⟨m, e, h, rounded, -⟩ := round_le positive (two_canonical most) (two_below below) negative
  rw [rounded]
  rfl

theorem Within.isFinite {bound : ℚ} (within : x.Within bound) : x.isFinite = true := by
  obtain ⟨m, e, h, rfl, -⟩ := within
  rfl

theorem isFinite_neg (x : Binary64) : x.neg.isFinite = x.isFinite := by
  cases x <;> rfl

theorem Within.ofNat_two {n : ℕ} (most : k ≤ 900) (below : n ≤ 2 ^ k) : (ofNat n).Within (2 ^ k) := by
  refine .round_two one_pos most ?_
  rw [Nat.cast_one, div_one]
  exact_mod_cast below

theorem Within.add_two (hx : x.Within (2 ^ k)) (hy : y.Within (2 ^ k)) (most : k < 900) :
    (x.add y).Within (2 ^ (k + 1)) := by
  obtain ⟨m, e, h, rfl, hm⟩ := hx
  obtain ⟨m', e', h', rfl, hm'⟩ := hy
  obtain ⟨num, den, positive, value, sum⟩ := add_eq_round h h'
  rw [sum]
  refine .round_two positive most ?_
  rw [value, pow_succ]
  linarith

theorem Within.mul_two (hx : x.Within (2 ^ j)) (hy : y.Within (2 ^ k)) (most : j + k ≤ 900) :
    (x.mul y).Within (2 ^ (j + k)) := by
  rw [← two_value]
  refine hx.mul hy (two_canonical most) (two_below ?_)
  rw [pow_add]

theorem Within.roundHalfAway_two (hx : x.Within (2 ^ k)) (most : k ≤ 900) : x.roundHalfAway.Within (2 ^ k) := by
  obtain ⟨m, e, h, rfl, hm⟩ := hx
  have below : ((ratio m e).1 / (ratio m e).2 : ℚ) < (2 ^ k : ℕ) + 1 / 2 := by
    rw [ratio_eq]
    push_cast
    linarith
  have whole : roundQuotient .away (ratio m e).1 (ratio m e).2 ≤ 2 ^ k := roundQuotient_le (ratio_den_pos m e) below
  exact .ofNat_two most whole

/-- Division by a number that is not below one makes nothing larger. -/
theorem Within.div_two {m : ℕ} {e : ℤ} {h : CanonicalParts m e} (hx : x.Within (2 ^ k)) (most : k ≤ 900)
    (one : (1 : ℚ) ≤ m * 2 ^ e) : (x.div (.finite false m e h)).Within (2 ^ k) := by
  have nonzero : 0 < m := by
    refine Nat.pos_of_ne_zero fun zero_ => ?_
    rw [zero_, Nat.cast_zero, zero_mul] at one
    exact absurd one (by norm_num)
  rw [← two_value]
  exact hx.div nonzero (two_canonical most) (two_below (div_le_self (by positivity) one))

end Powers

/-- Integers do not overflow. -/
theorem isFinite_ofInt {i : ℤ} {k : ℕ} (most : k ≤ 900) (below : i.natAbs ≤ 2 ^ k) : (ofInt i).isFinite = true := by
  refine isFinite_round one_pos most ?_
  rw [Nat.cast_one, div_one]
  exact_mod_cast below

end Binary64

namespace Decimal
open Binary64

/-- Whether a number is from one up to 2^94, by its parts. -/
def isPlaces : Binary64 → Bool
  | .finite false m e _ => 1 <<< 52 ≤ m ∧ m ≤ 1 <<< 53 ∧ -52 ≤ e ∧ e ≤ 41
  | _ => false

private theorem tens_places : ∀ n < 29,
    isPlaces (ofNat (10 ^ n)) = true ∧ isPlaces (power (ofNat 10) n) = true := by
  decide +kernel

theorem isPlaces_bounds {x : Binary64} (places : isPlaces x = true) :
    x.Within (2 ^ 94) ∧ ∃ m e h, x = .finite false m e h ∧ (1 : ℚ) ≤ m * 2 ^ e := by
  match x with
  | .nan | .infinite _ | .finite true _ _ _ => cases places
  | .finite false m e h =>
    obtain ⟨least, most, low, high⟩ := of_decide_eq_true places
    rw [← Nat.cast_le (α := ℚ), cast_shift] at least most
    refine ⟨⟨m, e, h, rfl, ?_⟩, m, e, h, rfl, ?_⟩
    · calc (m * 2 ^ e : ℚ) ≤ 2 ^ (53 : ℤ) * 2 ^ (41 : ℤ) :=
            mul_le_mul most (zpow_le_zpow_right₀ one_le_two high) (by positivity) (by positivity)
        _ = 2 ^ 94 := by norm_num
    · calc (1 : ℚ) = 2 ^ (52 : ℤ) * 2 ^ (-52 : ℤ) := by norm_num
        _ ≤ m * 2 ^ e :=
            mul_le_mul least (zpow_le_zpow_right₀ one_le_two low) (by positivity) (by positivity)

/-- Every decimal is finite. -/
theorem isFinite_toBinary64 (d : Decimal) : d.toBinary64.isFinite = true := by
  have room : d.mantissa ≤ 2 ^ 96 := d.mantissa_lt.le
  have signed (x : Binary64) (finite_ : x.isFinite = true) :
      (if d.negative then x.neg else x).isFinite = true := by
    split
    · rw [isFinite_neg, finite_]
    · exact finite_
  obtain ⟨unit, power_⟩ := tens_places d.scale (Nat.lt_succ_of_le d.scale_le)
  obtain ⟨-, m, e, h, divisor, one⟩ := isPlaces_bounds unit
  obtain ⟨most, m', e', h', places, one'⟩ := isPlaces_bounds power_
  have whole : (ofNat (d.mantissa / 10 ^ d.scale)).Within (2 ^ 96) :=
    .ofNat_two (by decide) ((Nat.div_le_self _ _).trans room)
  have fraction : ((ofNat (d.mantissa % 10 ^ d.scale)).div (ofNat (10 ^ d.scale))).Within (2 ^ 96) := by
    rw [divisor]
    exact (Within.ofNat_two (by decide) ((Nat.mod_le _ _).trans room)).div_two (by decide) one
  have digits := ((whole.add_two fraction (by decide)).mul_two most (by decide)).roundHalfAway_two (by decide)
  unfold toBinary64
  simp only
  split
  · refine isFinite_ofInt (k := 96) (by decide) ?_
    split
    · rwa [Int.natAbs_neg]
    · exact room
  · split
    · exact signed _ whole.isFinite
    · refine signed _ ?_
      rw [places] at digits ⊢
      exact (digits.div_two (by decide) one').isFinite

end Decimal
end Clickstream
