import Mathlib.Algebra.Order.Field.Power
import Mathlib.Data.Rat.Cast.Order
import Mathlib.Tactic.FieldSimp
import Mathlib.Tactic.Linarith
import Mathlib.Tactic.NormNum
import Mathlib.Tactic.Positivity
import Clickstream.Number.Binary64

/-! Rounding to the nearest binary64 number keeps bounds: what lies closer to a number than to the one
above it is rounded to no more than that number. -/
namespace Clickstream.Binary64

/-- Naturals are compared by rationals less than one apart from them. -/
theorem le_of_cast_lt {m n : ℕ} (below : (m : ℚ) < n + 1) : m ≤ n := by
  have : (m : ℚ) < (n + 1 : ℕ) := by exact_mod_cast below
  exact Nat.lt_succ_iff.mp (Nat.cast_lt.mp this)

theorem eq_of_cast_near {m n : ℕ} (near : |(m - n : ℚ)| < 1) : m = n := by
  obtain ⟨lower, upper⟩ := abs_lt.mp near
  exact le_antisymm (le_of_cast_lt (by linarith)) (le_of_cast_lt (by linarith))

/-- Scaling by powers of two is exact. -/
theorem scaled_pos (num : ℕ) {den : ℕ} (positive : 0 < den) (shift : ℤ) : 0 < (scaled num den shift).2 := by
  unfold scaled
  split
  · rw [Nat.shiftLeft_eq]
    positivity
  · exact positive

theorem scaled_eq (num : ℕ) {den : ℕ} (positive : 0 < den) (shift : ℤ) :
    ((scaled num den shift).1 : ℚ) / (scaled num den shift).2 = num / den * 2 ^ (-shift) := by
  have nonzero : (den : ℚ) ≠ 0 := by positivity
  unfold scaled
  split
  · rename_i up
    obtain ⟨n, rfl⟩ := Int.eq_ofNat_of_zero_le up
    simp only [Int.toNat_natCast, Nat.shiftLeft_eq, Nat.cast_mul, Nat.cast_pow, Nat.cast_ofNat,
      zpow_neg, zpow_natCast]
    field_simp
  · rename_i down
    obtain ⟨n, hn⟩ := Int.eq_ofNat_of_zero_le (show 0 ≤ -shift by omega)
    rw [hn]
    simp only [Int.toNat_natCast, Nat.shiftLeft_eq, Nat.cast_mul, Nat.cast_pow, Nat.cast_ofNat,
      zpow_natCast]
    field_simp

theorem ratio_eq (mantissa : ℕ) (exponent : ℤ) :
    ((ratio mantissa exponent).1 : ℚ) / (ratio mantissa exponent).2 = mantissa * 2 ^ exponent := by
  rw [ratio, scaled_eq _ one_pos]
  simp

theorem ratio_den_pos (mantissa : ℕ) (exponent : ℤ) : 0 < (ratio mantissa exponent).2 :=
  scaled_pos _ one_pos _

theorem ratio_num_pos {mantissa : ℕ} (positive : 0 < mantissa) (exponent : ℤ) :
    0 < (ratio mantissa exponent).1 := by
  have value := ratio_eq mantissa exponent
  refine Nat.pos_of_ne_zero fun zero_ => ?_
  rw [zero_, Nat.cast_zero, zero_div] at value
  exact absurd value (by positivity)

section Quotient
variable {tie : Tie} {num den n : ℕ}

theorem roundQuotient_le (positive : 0 < den) (below : (num : ℚ) / den < n + 1 / 2) :
    roundQuotient tie num den ≤ n := by
  have twice : 2 * num < (2 * n + 1) * den := by
    rw [div_lt_iff₀ (by positivity)] at below
    have : (2 * num : ℚ) < (2 * n + 1) * den := by linarith
    exact_mod_cast this
  have whole : den * (num / den) + num % den = num := Nat.div_add_mod num den
  have quotient : num / den ≤ n := by
    refine Nat.lt_succ_iff.mp ((Nat.div_lt_iff_lt_mul positive).mpr ?_)
    linarith
  have up (half : den ≤ 2 * (num % den)) : num / den + 1 ≤ n := by
    by_contra beyond
    have same : num / den = n := by omega
    rw [same] at whole
    linarith
  unfold roundQuotient
  simp only
  split
  · exact quotient
  · split
    · exact up (by omega)
    · cases tie with
      | toEven =>
        have := up (by omega)
        simp only
        omega
      | away => exact up (by omega)

theorem le_roundQuotient (positive : 0 < den) (above : (n : ℚ) ≤ num / den) :
    n ≤ roundQuotient tie num den := by
  have whole : n * den ≤ num := by
    rw [le_div_iff₀ (by positivity)] at above
    exact_mod_cast above
  have quotient : n ≤ num / den := (Nat.le_div_iff_mul_le positive).mpr whole
  unfold roundQuotient
  simp only
  split
  · exact quotient
  · split
    · omega
    · cases tie <;> simp only <;> omega

end Quotient

/-- The exponent under which a quotient has 53 bits before the point. -/
def fit (num den : ℕ) : ℤ :=
  let size : ℤ := (num.log2 : ℤ) - (den.log2 : ℤ)
  let full := scaled num den (size - 52)
  if full.2 <<< 52 ≤ full.1 then size - 52 else size - 53

/-- Two numbers are told from their lengths up to a factor of two. -/
theorem log2_bounds {num den : ℕ} (hnum : 0 < num) (hden : 0 < den) :
    (2 : ℚ) ^ ((num.log2 : ℤ) - den.log2 - 1) < num / den ∧
      (num / den : ℚ) < 2 ^ ((num.log2 : ℤ) - den.log2 + 1) := by
  have two : (2 : ℚ) ≠ 0 := by norm_num
  have hden' : (0 : ℚ) < den := by exact_mod_cast hden
  have least {n : ℕ} (positive : 0 < n) : (2 : ℚ) ^ (n.log2 : ℤ) ≤ n := by
    rw [zpow_natCast]
    exact_mod_cast Nat.log2_self_le positive.ne'
  have most (n : ℕ) : (n : ℚ) < 2 ^ ((n.log2 : ℤ) + 1) := by
    have := Nat.lt_log2_self (n := n)
    exact_mod_cast this
  constructor
  · rw [lt_div_iff₀ hden']
    calc (2 : ℚ) ^ ((num.log2 : ℤ) - den.log2 - 1) * den
        < 2 ^ ((num.log2 : ℤ) - den.log2 - 1) * 2 ^ ((den.log2 : ℤ) + 1) := by
          gcongr
          exact most den
      _ = 2 ^ (num.log2 : ℤ) := by
        rw [← zpow_add₀ two]
        congr 1
        omega
      _ ≤ num := least hnum
  · rw [div_lt_iff₀ hden']
    calc (num : ℚ) < 2 ^ ((num.log2 : ℤ) + 1) := most num
      _ = 2 ^ ((num.log2 : ℤ) - den.log2 + 1) * 2 ^ (den.log2 : ℤ) := by
        rw [← zpow_add₀ two]
        congr 1
        omega
      _ ≤ 2 ^ ((num.log2 : ℤ) - den.log2 + 1) * den := by
        gcongr
        exact least hden

private theorem full_iff {num den : ℕ} (hden : 0 < den) (size : ℤ) :
    (scaled num den (size - 52)).2 <<< 52 ≤ (scaled num den (size - 52)).1 ↔
      (2 : ℚ) ^ size ≤ num / den := by
  have exact_ := scaled_eq num hden (size - 52)
  have positive : (0 : ℚ) < (scaled num den (size - 52)).2 := by
    exact_mod_cast scaled_pos num hden _
  have whole : (scaled num den (size - 52)).2 <<< 52 ≤ (scaled num den (size - 52)).1 ↔
      (2 : ℚ) ^ (52 : ℤ) ≤ (scaled num den (size - 52)).1 / (scaled num den (size - 52)).2 := by
    rw [le_div_iff₀ positive, Nat.shiftLeft_eq, mul_comm]
    exact_mod_cast Iff.rfl
  have back : 52 - -(size - 52) = size := by omega
  rw [whole, exact_, ← div_le_iff₀ (by positivity), ← zpow_sub₀ two_ne_zero, back]

theorem fit_bounds {num den : ℕ} (hnum : 0 < num) (hden : 0 < den) :
    (2 : ℚ) ^ (fit num den + 52) ≤ num / den ∧ (num / den : ℚ) < 2 ^ (fit num den + 53) := by
  obtain ⟨lower, upper⟩ := log2_bounds hnum hden
  unfold fit
  simp only
  split
  · rename_i fits
    have next : (num.log2 : ℤ) - den.log2 - 52 + 53 = num.log2 - den.log2 + 1 := by omega
    rw [sub_add_cancel, next]
    exact ⟨(full_iff hden _).mp fits, upper⟩
  · rename_i misses
    rw [full_iff hden, not_le] at misses
    have next : (num.log2 : ℤ) - den.log2 - 53 + 52 = num.log2 - den.log2 - 1 := by omega
    rw [sub_add_cancel, next]
    exact ⟨lower.le, misses⟩

theorem cast_shift (n : ℕ) : ((1 <<< n : ℕ) : ℚ) = 2 ^ (n : ℤ) := by
  rw [Nat.shiftLeft_eq, one_mul, zpow_natCast]
  push_cast
  rfl

/-- A mantissa of 54 bits is the least of 53 bits in units twice as large. -/
theorem carried_eq (e : ℤ) : ((1 <<< 52 : ℕ) * 2 ^ (e + 1) : ℚ) = (1 <<< 53 : ℕ) * 2 ^ e := by
  rw [cast_shift, cast_shift, ← zpow_add₀ two_ne_zero, ← zpow_add₀ two_ne_zero]
  congr 1
  omega

/-- A mantissa has 53 bits at most, and all of them unless units cannot be smaller. -/
theorem mantissa_bounds {mantissa : ℕ} {exponent : ℤ} (canonical : CanonicalParts mantissa exponent) :
    (mantissa + 1 : ℚ) ≤ 2 ^ (53 : ℤ) ∧ ((2 : ℚ) ^ (52 : ℤ) ≤ mantissa ∨ exponent = -1074) := by
  obtain ⟨width, -, -, full⟩ := canonical
  have width' : ((mantissa + 1 : ℕ) : ℚ) ≤ (1 <<< 53 : ℕ) := Nat.cast_le.mpr width
  rw [cast_shift] at width'
  refine ⟨by exact_mod_cast width', full.imp_left fun large => ?_⟩
  have large' : ((1 <<< 52 : ℕ) : ℚ) ≤ mantissa := Nat.cast_le.mpr large
  rw [cast_shift] at large'
  exact large'

private theorem round_near {num den : ℕ} (hnum : 0 < num) (hden : 0 < den) (negative : Bool) :
    ∃ (e : ℤ) (k : ℕ), (round negative num den =
        if k = 1 <<< 53 then ofParts negative (1 <<< 52) (e + 1) else ofParts negative k e) ∧
      (-1074 ≤ e ∧ k ≤ 1 <<< 53) ∧
      (e = -1074 ∨ 1 <<< 52 ≤ k ∧ (2 : ℚ) ^ (e + 52) ≤ num / den) ∧
      ∀ n : ℕ, (num / den : ℚ) < (n + 1 / 2) * 2 ^ e → k ≤ n := by
  have two : (1 : ℚ) ≤ 2 := by norm_num
  obtain ⟨lower, upper⟩ := fit_bounds hnum hden
  generalize hfit : fit num den = fitting at lower upper
  have exact_ := scaled_eq num hden (max fitting (-1074))
  have rest := scaled_pos num hden (max fitting (-1074))
  refine ⟨max fitting (-1074), roundQuotient .toEven (scaled num den (max fitting (-1074))).1
    (scaled num den (max fitting (-1074))).2, ?_, ⟨le_max_right _ _, ?_⟩, ?_, fun n below => ?_⟩
  · rw [round, if_neg hnum.ne', ← hfit]
    rfl
  · refine roundQuotient_le rest ?_
    have inside : (num / den : ℚ) < 2 ^ (53 : ℤ) * 2 ^ max fitting (-1074) := by
      rw [← zpow_add₀ (by norm_num), add_comm]
      exact upper.trans_le (zpow_le_zpow_right₀ two (by omega))
    rw [exact_, zpow_neg, ← div_eq_mul_inv, div_lt_iff₀ (by positivity), cast_shift]
    exact inside.trans (by gcongr; norm_num)
  · rcases le_total fitting (-1074) with small | large
    · exact .inl (max_eq_right small)
    · rw [max_eq_left large] at exact_ rest ⊢
      refine .inr ⟨le_roundQuotient rest ?_, lower⟩
      rw [exact_, zpow_neg, ← div_eq_mul_inv, le_div_iff₀ (by positivity), cast_shift,
        ← zpow_add₀ (by norm_num), add_comm]
      exact lower
  · refine roundQuotient_le rest ?_
    rw [exact_, zpow_neg, ← div_eq_mul_inv, div_lt_iff₀ (by positivity)]
    exact below

private theorem near_le {x : ℚ} {e exponent : ℤ} {k mantissa : ℕ}
    (canonical : CanonicalParts mantissa exponent) (below : x < (mantissa + 1 / 2) * 2 ^ exponent)
    (bounds : -1074 ≤ e ∧ k ≤ 1 <<< 53) (grain : e = -1074 ∨ (2 : ℚ) ^ (e + 52) ≤ x)
    (near : ∀ n : ℕ, x < (n + 1 / 2) * 2 ^ e → k ≤ n) :
    (e ≤ exponent ∧ (k = 1 <<< 53 → e < exponent)) ∧
      (k * 2 ^ e : ℚ) ≤ mantissa * 2 ^ exponent := by
  obtain ⟨wide, -⟩ := mantissa_bounds canonical
  obtain ⟨width, least, -, full⟩ := canonical
  obtain ⟨least', most⟩ := bounds
  have finer : e ≤ exponent := by
    rcases grain with rfl | lower
    · exact least
    · by_contra coarser
      have : (2 : ℚ) ^ (e + 52) < 2 ^ (53 : ℤ) * 2 ^ exponent := by
        refine lower.trans_lt (below.trans_le ?_)
        gcongr
        linarith
      rw [← zpow_add₀ (by norm_num)] at this
      have := (zpow_lt_zpow_iff_right₀ (by norm_num)).mp this
      omega
  rcases finer.eq_or_lt with rfl | finer
  · have same := near mantissa below
    exact ⟨⟨le_refl _, fun carried => by omega⟩, by gcongr⟩
  · have large : 1 <<< 52 ≤ mantissa := full.resolve_right (by omega)
    refine ⟨⟨finer.le, fun _ => finer⟩, ?_⟩
    calc (k * 2 ^ e : ℚ) ≤ (1 <<< 53 : ℕ) * 2 ^ e := by gcongr
      _ = (1 <<< 52 : ℕ) * 2 ^ (e + 1) := (carried_eq e).symm
      _ ≤ mantissa * 2 ^ exponent := by
        gcongr
        · norm_num
        · omega

/-- What is less than half a unit above a number is rounded to no more than that number. -/
theorem round_le {num den : ℕ} {mantissa : ℕ} {exponent : ℤ} (positive : 0 < den)
    (canonical : CanonicalParts mantissa exponent)
    (below : (num / den : ℚ) < (mantissa + 1 / 2) * 2 ^ exponent) (negative : Bool) :
    ∃ m e h, round negative num den = .finite negative m e h ∧
      (m * 2 ^ e : ℚ) ≤ mantissa * 2 ^ exponent := by
  rcases Nat.eq_zero_or_pos num with rfl | nonzero
  · refine ⟨0, -1074, by decide, rfl, ?_⟩
    simp only [Nat.cast_zero, zero_mul]
    positivity
  obtain ⟨e, k, rounded, bounds, grain, near⟩ := round_near nonzero positive negative
  obtain ⟨⟨finer, below_of_carried⟩, small⟩ :=
    near_le canonical below bounds (grain.imp_right And.right) near
  obtain ⟨least, most⟩ := bounds
  have greatest : exponent ≤ 971 := canonical.2.2.1
  rw [rounded]
  by_cases carried : k = 1 <<< 53
  · have below_ := below_of_carried carried
    have parts : CanonicalParts (1 <<< 52) (e + 1) :=
      ⟨by decide, by omega, by omega, .inl (Nat.le_refl _)⟩
    refine ⟨_, _, parts, by rw [if_pos carried, ofParts, dif_pos parts], ?_⟩
    rw [carried_eq, ← carried]
    exact small
  · have parts : CanonicalParts k e :=
      ⟨lt_of_le_of_ne most carried, least, by omega, grain.symm.imp And.left id⟩
    exact ⟨_, _, parts, by rw [if_neg carried, ofParts, dif_pos parts], small⟩

/-- The number is positive or zero, and no more than the bound. -/
def Within (x : Binary64) (bound : ℚ) : Prop :=
  ∃ m e h, x = .finite false m e h ∧ (m * 2 ^ e : ℚ) ≤ bound

namespace Within
variable {x y : Binary64} {a b : ℚ} {mantissa n : ℕ} {exponent : ℤ}

theorem round {num den : ℕ} (positive : 0 < den) (canonical : CanonicalParts mantissa exponent)
    (below : (num / den : ℚ) < (mantissa + 1 / 2) * 2 ^ exponent) :
    (Binary64.round false num den).Within (mantissa * 2 ^ exponent) :=
  round_le positive canonical below false

/-- A product is rounded to no more than a number if the product of the bounds is. -/
theorem mul (hx : x.Within a) (hy : y.Within b) (canonical : CanonicalParts mantissa exponent)
    (below : a * b < (mantissa + 1 / 2) * 2 ^ exponent) :
    (x.mul y).Within (mantissa * 2 ^ exponent) := by
  obtain ⟨m, e, h, rfl, hm⟩ := hx
  obtain ⟨k, f, h', rfl, hk⟩ := hy
  refine round (ratio_den_pos _ _) canonical (lt_of_le_of_lt ?_ below)
  have : 0 ≤ a := le_trans (by positivity) hm
  rw [ratio_eq, Nat.cast_mul, zpow_add₀ two_ne_zero, mul_mul_mul_comm]
  gcongr

/-- So is a quotient by a number that is not zero. -/
theorem div {h : CanonicalParts n exponent} {bound : ℕ} {exponent' : ℤ} (hx : x.Within a)
    (nonzero : 0 < n) (canonical : CanonicalParts bound exponent')
    (below : a / (n * 2 ^ exponent) < (bound + 1 / 2) * 2 ^ exponent') :
    (x.div (.finite false n exponent h)).Within (bound * 2 ^ exponent') := by
  obtain ⟨m, e, _, rfl, hm⟩ := hx
  have divisor : ((ratio n exponent).1 : ℚ) / (ratio n exponent).2 = n * 2 ^ exponent :=
    ratio_eq n exponent
  have positive := ratio_num_pos nonzero exponent
  have divided : Binary64.div (.finite false m e ‹_›) (.finite false n exponent h) = .round false
      ((ratio m e).1 * (ratio n exponent).2) ((ratio m e).2 * (ratio n exponent).1) := by
    rw [Binary64.div, if_neg nonzero.ne']
    rfl
  rw [divided]
  refine round (Nat.mul_pos (ratio_den_pos _ _) positive) canonical (lt_of_le_of_lt ?_ below)
  have split : (((ratio m e).1 * (ratio n exponent).2 : ℕ) : ℚ) /
      ((ratio m e).2 * (ratio n exponent).1 : ℕ) = m * 2 ^ e / (n * 2 ^ exponent) := by
    rw [← divisor, ← ratio_eq m e]
    push_cast
    rw [div_div_div_eq]
  rw [split]
  gcongr

/-- What is below a whole number has a smaller integer part. -/
theorem truncate (hx : x.Within a) (below : a < n) : ∃ k < n, x.truncate = ofNat k := by
  obtain ⟨m, e, h, rfl, hm⟩ := hx
  refine ⟨magnitude m e, ?_, rfl⟩
  have positive := ratio_den_pos m e
  rw [magnitude, Nat.div_lt_iff_lt_mul positive]
  have : ((ratio m e).1 : ℚ) / (ratio m e).2 < n := by
    rw [ratio_eq]
    exact hm.trans_lt below
  rw [div_lt_iff₀ (by positivity)] at this
  exact_mod_cast this

theorem atLeast_zero (hx : x.Within a) : x.atLeast 0 = true := by
  obtain ⟨m, e, h, rfl, -⟩ := hx
  simp [atLeast]

theorem not_atLeast (hx : x.Within a) (below : a < n) : x.atLeast n = false := by
  obtain ⟨m, e, h, rfl, hm⟩ := hx
  have positive := ratio_den_pos m e
  have : ((ratio m e).1 : ℚ) / (ratio m e).2 < n := by
    rw [ratio_eq]
    exact hm.trans_lt below
  rw [div_lt_iff₀ (by positivity)] at this
  simp only [atLeast, Bool.false_eq_true, ↓reduceIte, decide_eq_false_iff_not, not_le]
  exact_mod_cast this

end Within
end Clickstream.Binary64
