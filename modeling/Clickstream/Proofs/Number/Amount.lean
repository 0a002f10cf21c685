import Clickstream.Proofs.Number.Approach
import Clickstream.Proofs.Number.Decimal
import Clickstream.Proofs.Number.Decoded

/-! What becomes of a binary64 number that is kept as a decimal and made into a binary64 number again. -/
namespace Clickstream.Decimal
open Binary64

section Whole
variable {negative : Bool} {mantissa whole : ℕ} {exponent : ℤ} {d : Decimal}

/-- Whole numbers come back as they are, except that a zero has lost its sign. -/
theorem toBinary64_whole {canonical : CanonicalParts mantissa exponent}
    (exact_ : (mantissa * 2 ^ exponent : ℚ) = whole)
    (kept : ofBinary64? (.finite negative mantissa exponent canonical) = some d) :
    d.toBinary64 = .finite (negative && whole != 0) mantissa exponent canonical := by
  rw [ofBinary64?_whole canonical exact_, make?_eq_some] at kept
  obtain ⟨sign, digits, scale⟩ := kept
  unfold toBinary64
  simp only
  rw [if_pos scale, sign, digits]
  rcases eq_or_ne whole 0 with rfl | nonzero
  · have zero_ : mantissa = 0 := by
      rw [Nat.cast_zero, mul_eq_zero, or_iff_left (by positivity)] at exact_
      exact_mod_cast exact_
    subst zero_
    obtain rfl : exponent = -1074 := canonical.2.2.2.resolve_left (by decide)
    simp [ofInt, Binary64.round, Binary64.zero, ofParts, canonical]
  · rw [bne_iff_ne.mpr nonzero, Bool.and_true, ofInt_signed negative nonzero]
    exact round_exact one_pos canonical (by rw [Nat.cast_one, div_one, exact_]) negative

/-- So every whole number comes back, as a number. -/
theorem toRat_toBinary64_whole {x : Binary64} {n : ℤ} (finite_ : x.isFinite = true) (exact_ : x.toRat = n)
    (kept : ofBinary64? x = some d) : d.toBinary64.isFinite = true ∧ d.toBinary64.toRat = n := by
  match x with
  | .nan => cases finite_
  | .infinite _ => cases finite_
  | .finite negative mantissa exponent canonical =>
    have size : (mantissa * 2 ^ exponent : ℚ) = n.natAbs := by
      rw [← abs_toRat negative canonical, exact_, Nat.cast_natAbs, Int.cast_abs]
    rw [toBinary64_whole size kept]
    refine ⟨rfl, ?_⟩
    rw [← exact_]
    rcases eq_or_ne n.natAbs 0 with zero_ | nonzero
    · rw [zero_, Nat.cast_zero] at size
      simp [Binary64.toRat, size]
    · rw [bne_iff_ne.mpr nonzero, Bool.and_true]

end Whole

/-- Where the spacing of binary64 numbers is nearly that of the decimals that are kept of them, as 1/1024 is
nearly 1/1000: a decimal can be too far from the number nearest to it there to be found again. -/
def Tight (x : ℚ) : Prop :=
  ∃ i ∈ [1, 2, 3, 4], (2 : ℚ) ^ (52 - 10 * i) ≤ |x| ∧ |x| * 10 ^ (3 * i) < 2 ^ 52

instance (x : ℚ) : Decidable (Tight x) := inferInstanceAs (Decidable (∃ i ∈ [1, 2, 3, 4], _))

private theorem nearly : ∀ k < 29, ∀ j < 97, 10 ^ k < 2 ^ j →
    9 * 10 ^ k ≤ 8 * 2 ^ j ∨ ∃ i ∈ [1, 2, 3, 4], k = 3 * i ∧ j = 10 * i := by
  decide +kernel

section Written
variable {x : Binary64} {d : Decimal} {negative : Bool} {digits places : ℕ}

private theorem coarser {value : ℚ} {j k : ℕ} (small : k ≤ 28) (normal : 2 ^ 52 * 2 ^ (-j : ℤ) ≤ value)
    (fits : value * 10 ^ k < 2 ^ 52) (loose : ¬ Tight value) : 9 * ((2 : ℚ) ^ (-j : ℤ) * 10 ^ k) ≤ 8 := by
  have positive : (0 : ℚ) < 2 ^ j := by positivity
  rw [zpow_neg, zpow_natCast] at normal ⊢
  have below : 10 ^ k < 2 ^ j := by
    have : (2 ^ 52 * (2 ^ j)⁻¹ * 10 ^ k : ℚ) < 2 ^ 52 := lt_of_le_of_lt (by gcongr) fits
    rw [mul_assoc, mul_lt_iff_lt_one_right (by positivity), inv_mul_lt_iff₀ positive, mul_one] at this
    exact_mod_cast this
  have enough : 9 * 10 ^ k ≤ 8 * 2 ^ j := by
    rcases lt_or_ge j 97 with near | far
    · refine (nearly k (by omega) j near below).resolve_right ?_
      rintro ⟨i, there, rfl, rfl⟩
      have most : 10 * i ≤ 52 := by
        simp only [List.mem_cons, List.not_mem_nil, or_false] at there
        omega
      have split : (2 : ℚ) ^ 52 = 2 ^ (52 - 10 * i) * 2 ^ (10 * i) := by
        rw [← pow_add, Nat.sub_add_cancel most]
      have sign : |value| = value := abs_of_nonneg (le_trans (by positivity) normal)
      rw [split, mul_inv_cancel_right₀ positive.ne'] at normal
      exact loose ⟨i, there, by rwa [sign], by rwa [sign]⟩
    · calc 9 * 10 ^ k ≤ 9 * 10 ^ 28 := by gcongr; norm_num
        _ ≤ 8 * 2 ^ 97 := by norm_num
        _ ≤ 8 * 2 ^ j := by gcongr; norm_num
  have enough' : (9 * 10 ^ k : ℚ) ≤ 8 * 2 ^ j := by exact_mod_cast enough
  rw [inv_mul_eq_div, mul_div_assoc', div_le_iff₀ positive]
  exact enough'

private theorem toBinary64_eq (nonzero : d.mantissa ≠ 0) (few : d.scale ≤ 22) (short : d.mantissa < 10 ^ 15) :
    d.toBinary64 = round d.negative d.mantissa (10 ^ d.scale) := by
  rcases Nat.eq_zero_or_pos d.scale with whole | decimals
  · unfold toBinary64
    simp only
    rw [if_pos whole, ofInt_signed _ nonzero, whole, Nat.pow_zero]
  · exact toBinary64_eq_round decimals few short

private theorem fewer_digits {scale mantissa : ℕ} (same : mantissa * 10 ^ places = digits * 10 ^ scale)
    (stripped : scale = 0 ∨ mantissa % 10 ≠ 0) : scale ≤ places ∧ mantissa ≤ digits := by
  have fewer : scale ≤ places := by
    by_contra more
    obtain ⟨k, rfl⟩ : ∃ k, scale = places + (k + 1) := ⟨scale - places - 1, by omega⟩
    rw [pow_add, ← Nat.mul_assoc, Nat.mul_right_comm] at same
    have : mantissa = digits * 10 ^ (k + 1) := Nat.eq_of_mul_eq_mul_right (by positivity) same
    rw [pow_succ, ← Nat.mul_assoc] at this
    omega
  refine ⟨fewer, Nat.le_of_mul_le_mul_right ?_ (show 0 < 10 ^ places by positivity)⟩
  rw [same]
  gcongr
  norm_num

private theorem some_digits {scale mantissa : ℕ} (same : mantissa * 10 ^ places = digits * 10 ^ scale)
    (nonzero : 0 < digits) : mantissa ≠ 0 := by
  rintro rfl
  rw [Nat.zero_mul, eq_comm] at same
  exact absurd same (by positivity)

private theorem toBinary64_same (same : d.mantissa * 10 ^ places = digits * 10 ^ d.scale)
    (stripped : d.scale = 0 ∨ d.mantissa % 10 ≠ 0) (nonzero : 0 < digits) (few : places ≤ 22)
    (short : digits < 10 ^ 15) : d.toBinary64 = round d.negative digits (10 ^ places) := by
  obtain ⟨fewer, less⟩ := fewer_digits same stripped
  rw [toBinary64_eq (some_digits same nonzero) (by omega) (by omega)]
  refine round_congr (by positivity) (by positivity) ?_ _
  rw [div_eq_div_iff (by positivity) (by positivity)]
  exact_mod_cast same

private theorem kept_fraction {m j : ℕ} {canonical : CanonicalParts m (-j)} (full : 1 <<< 52 ≤ m) (positive : 0 < j)
    (near : |(m * 2 ^ (-j : ℤ) - digits / 10 ^ places : ℚ)| ≤ 2 ^ (-j : ℤ) / 2) (nonzero : 0 < digits)
    (few : places ≤ 22) (short : digits < 10 ^ 15)
    (loose : ¬ Tight (Binary64.finite negative m (-j) canonical).toRat)
    (kept : ofBinary64? (.finite negative m (-j) canonical) = some d) :
    (d.mantissa * 10 ^ places = digits * 10 ^ d.scale ∧ (d.scale = 0 ∨ d.mantissa % 10 ≠ 0)) ∧
      d.negative = (negative && d.mantissa != 0) := by
  have some_ : m ≠ 0 := by omega
  have value : |(Binary64.finite negative m (-j) canonical).toRat| = m * 2 ^ (-j : ℤ) := abs_toRat negative canonical
  obtain ⟨r, ⟨five, ten⟩, -, scaled_, read⟩ := ofBinary64?_fraction negative canonical some_ (by omega)
  rw [kept] at read
  obtain ⟨sign, mantissa, scale⟩ := make?_eq_some.mp read.symm
  have normal : (2 ^ 52 * 2 ^ (-j : ℤ) : ℚ) ≤ m * 2 ^ (-j : ℤ) := by
    have : (2 ^ 52 : ℚ) ≤ m := by exact_mod_cast full
    gcongr
  have approaches : Scaling.Approaches r (m * 2 ^ (-j : ℤ)) (2 ^ (-j : ℤ)) digits places := by
    refine ⟨five, ten, scaled_, ⟨normal, ?_⟩, near, few, nonzero, short⟩
    have : (m : ℚ) < 2 ^ 53 := by exact_mod_cast canonical.1
    gcongr
  have fine : ((2 : ℚ) ^ (-j : ℤ)) ≤ 1 / 2 := by
    refine (zpow_le_zpow_right₀ (by norm_num) (show (-j : ℤ) ≤ -1 by omega)).trans_eq ?_
    norm_num
  have exact_ := approaches.kept fine fun k small fits => coarser small normal fits (by
    rwa [Tight, ← value, abs_abs])
  rw [← mantissa, ← scale] at exact_
  refine ⟨⟨exact_, ?_⟩, mantissa ▸ sign⟩
  rw [scale, mantissa]
  exact (Scaling.kept_cases ten.2 ten.1).1.2.imp (by omega) id

/-- The nearest number to a decimal with few digits is kept as that decimal, and converted to itself, where
the spacing of the numbers allows it. -/
theorem toBinary64_written (written : round negative digits (10 ^ places) = x) (nonzero : 0 < digits)
    (few : places ≤ 22) (short : digits < 10 ^ 15) (loose : ¬ Tight x.toRat)
    (kept : ofBinary64? x = some d) : d.toBinary64 = x := by
  have hten : 0 < 10 ^ places := by positivity
  have cast_ : ((10 ^ places : ℕ) : ℚ) = 10 ^ places := by push_cast; rfl
  have least : (1 / 10 ^ 22 : ℚ) ≤ digits / (10 ^ places : ℕ) := by
    have some_ : (1 : ℚ) ≤ digits := by exact_mod_cast nonzero
    rw [cast_]
    gcongr
    norm_num
  have most : (digits / (10 ^ places : ℕ) : ℚ) ≤ 10 ^ 15 := by
    have : (digits : ℚ) ≤ 10 ^ 15 := by exact_mod_cast short.le
    refine (div_le_self (by positivity) ?_).trans this
    exact_mod_cast hten
  obtain ⟨m, e, canonical, same, full, near, -⟩ := round_amount hten
    (le_trans (by norm_num) least) (most.trans (by norm_num)) negative
  rw [written] at same
  subst same
  rcases le_or_gt 0 e with up | down
  · obtain ⟨k, rfl⟩ := Int.eq_ofNat_of_zero_le up
    have some_ : m ≠ 0 := by omega
    have positive : m * 2 ^ k ≠ 0 := by positivity
    have whole : (m * 2 ^ (k : ℤ) : ℚ) = (m * 2 ^ k : ℕ) := by
      push_cast
      rw [zpow_natCast]
    rw [toBinary64_whole whole kept, bne_iff_ne.mpr positive, Bool.and_true]
  · obtain ⟨j, rfl⟩ : ∃ j : ℕ, e = -j := ⟨e.natAbs, by omega⟩
    obtain ⟨⟨same, stripped⟩, sign⟩ :=
      kept_fraction full (by omega) (cast_ ▸ near) nonzero few short loose kept
    rw [toBinary64_same same stripped nonzero few short, sign, bne_iff_ne.mpr (some_digits same nonzero),
      Bool.and_true, written]

end Written
end Clickstream.Decimal
