import Mathlib.Tactic.Ring
import Clickstream.Proofs.Number.Rounding

/-! Rounding to the nearest binary64 number as a function of what is rounded: it does not depend on how a
quotient is written, keeps what is a binary64 number already, and is off by half a unit at most. -/
namespace Clickstream.Binary64

/-- A finite number as a rational. Zero stands for the others. -/
def toRat : Binary64 → ℚ
  | .finite negative mantissa exponent _ => (if negative then -1 else 1) * (mantissa * 2 ^ exponent)
  | _ => 0

theorem abs_toRat (negative : Bool) {mantissa : ℕ} {exponent : ℤ} (h : CanonicalParts mantissa exponent) :
    |(finite negative mantissa exponent h).toRat| = mantissa * 2 ^ exponent := by
  have sign : |if negative then (-1 : ℚ) else 1| = 1 := by cases negative <;> simp
  rw [toRat, abs_mul, sign, one_mul, abs_of_nonneg (by positivity)]

/-- A number that is not negative and below a whole number is finite, and below it in size. -/
theorem abs_toRat_lt {x : Binary64} {n : ℕ} (from_ : x.atLeast 0 = true) (until_ : x.atLeast n = false) :
    x.isFinite = true ∧ |x.toRat| < n := by
  match x with
  | .nan => cases from_
  | .infinite negative =>
    rw [atLeast] at from_ until_
    rw [from_] at until_
    cases until_
  | .finite negative mantissa exponent h =>
    refine ⟨rfl, ?_⟩
    rw [abs_toRat]
    cases negative with
    | true =>
      obtain rfl : mantissa = 0 := by simpa [atLeast] using from_
      have positive : 0 < n := by
        rw [Nat.pos_iff_ne_zero]
        simpa [atLeast] using until_
      simpa using positive
    | false =>
      have below : (ratio mantissa exponent).1 < n * (ratio mantissa exponent).2 := by
        simpa [atLeast] using until_
      have positive := ratio_den_pos mantissa exponent
      rw [← ratio_eq, div_lt_iff₀ (by exact_mod_cast positive)]
      exact_mod_cast below

section Quotient
variable {tie : Tie} {num den num' den' n : ℕ}

/-- The nearest integer is half a unit away at most. -/
theorem roundQuotient_near (tie : Tie) (num : ℕ) (positive : 0 < den) :
    2 * (den * roundQuotient tie num den) ≤ 2 * num + den ∧
      2 * num ≤ 2 * (den * roundQuotient tie num den) + den := by
  have whole : den * (num / den) + num % den = num := Nat.div_add_mod num den
  have rest : num % den < den := Nat.mod_lt _ positive
  have next : den * (num / den + 1) = den * (num / den) + den := Nat.mul_succ _ _
  unfold roundQuotient
  simp only
  split
  · omega
  · split
    · rw [next]
      omega
    · cases tie with
      | toEven =>
        rcases Nat.mod_two_eq_zero_or_one (num / den) with even | odd
        · simp only [even, Nat.add_zero]
          omega
        · simp only [odd, next]
          omega
      | away =>
        simp only
        rw [next]
        omega

theorem abs_roundQuotient_sub_le (tie : Tie) (num : ℕ) (positive : 0 < den) :
    |(roundQuotient tie num den : ℚ) - num / den| ≤ 1 / 2 := by
  obtain ⟨upper, lower⟩ := roundQuotient_near tie num positive
  have positive' : (0 : ℚ) < den := by exact_mod_cast positive
  have upper' : (2 * (den * roundQuotient tie num den) : ℚ) ≤ 2 * num + den := by exact_mod_cast upper
  have lower' : (2 * num : ℚ) ≤ 2 * (den * roundQuotient tie num den) + den := by exact_mod_cast lower
  have whole : (num / den : ℚ) * den = num := div_mul_cancel₀ _ positive'.ne'
  rw [abs_le]
  constructor <;> nlinarith

/-- Of one less than half a unit away the nearest integer is this one. -/
theorem roundQuotient_eq (positive : 0 < den) (near : |(num / den : ℚ) - n| < 1 / 2) :
    roundQuotient tie num den = n := by
  obtain ⟨lower, upper⟩ := abs_lt.mp near
  obtain ⟨lower', upper'⟩ := abs_le.mp (abs_roundQuotient_sub_le tie num positive)
  refine eq_of_cast_near (abs_lt.mpr ⟨?_, ?_⟩)
  · linarith
  · linarith

private theorem roundQuotient_mul (positive : 0 < n) :
    roundQuotient tie (n * num) (n * den) = roundQuotient tie num den := by
  have twice : 2 * (n * num % (n * den)) = n * (2 * (num % den)) := by
    rw [Nat.mul_mod_mul_left]
    ring
  simp only [roundQuotient, Nat.mul_div_mul_left _ _ positive, twice, Nat.mul_lt_mul_left positive]

/-- The nearest integer does not depend on how a quotient is written. -/
theorem roundQuotient_congr (positive : 0 < den) (positive' : 0 < den')
    (same : (num / den : ℚ) = num' / den') :
    roundQuotient tie num den = roundQuotient tie num' den' := by
  have cross : den' * num = den * num' := by
    rw [div_eq_div_iff (by positivity) (by positivity)] at same
    have : den' * num = num' * den := by
      rw [Nat.mul_comm]
      exact_mod_cast same
    rw [this, Nat.mul_comm]
  calc roundQuotient tie num den = roundQuotient tie (den' * num) (den' * den) :=
        (roundQuotient_mul positive').symm
    _ = roundQuotient tie (den * num') (den * den') := by rw [cross, Nat.mul_comm den' den]
    _ = roundQuotient tie num' den' := roundQuotient_mul positive

end Quotient

section Round
variable {num den num' den' mantissa : ℕ} {exponent : ℤ}

/-- The power of two that a quotient lies above decides its unit. -/
theorem fit_eq (hnum : 0 < num) (hden : 0 < den) {e : ℤ} (lower : (2 : ℚ) ^ (e + 52) ≤ num / den)
    (upper : (num / den : ℚ) < 2 ^ (e + 53)) : fit num den = e := by
  obtain ⟨lower', upper'⟩ := fit_bounds hnum hden
  have below := (zpow_lt_zpow_iff_right₀ (by norm_num : (1 : ℚ) < 2)).mp (lower.trans_lt upper')
  have above := (zpow_lt_zpow_iff_right₀ (by norm_num : (1 : ℚ) < 2)).mp (lower'.trans_lt upper)
  omega

/-- The number of units that a quotient is rounded to. -/
def units (num den : ℕ) : ℕ :=
  let fraction := scaled num den (max (fit num den) (-1074))
  roundQuotient .toEven fraction.1 fraction.2

theorem round_eq (hnum : 0 < num) (negative : Bool) : round negative num den =
    if units num den = 1 <<< 53 then ofParts negative (1 <<< 52) (max (fit num den) (-1074) + 1)
    else ofParts negative (units num den) (max (fit num den) (-1074)) := by
  unfold round
  rw [if_neg hnum.ne']
  rfl

theorem neg_round (negative : Bool) (num den : ℕ) :
    (round negative num den).neg = round (!negative) num den := by
  have parts (m : ℕ) (e : ℤ) : (ofParts negative m e).neg = ofParts (!negative) m e := by
    unfold ofParts
    split <;> rfl
  rcases Nat.eq_zero_or_pos num with rfl | hnum
  · exact parts 0 (-1074)
  · rw [round_eq hnum, round_eq hnum]
    split <;> exact parts _ _

theorem units_near (num : ℕ) (hden : 0 < den) :
    |(units num den : ℚ) - num / den * 2 ^ (-max (fit num den) (-1074))| ≤ 1 / 2 := by
  have value := scaled_eq num hden (max (fit num den) (-1074))
  unfold units
  rw [← value]
  exact abs_roundQuotient_sub_le .toEven _ (scaled_pos num hden _)

/-- Rounding does not depend on how a quotient is written. -/
theorem round_congr (hden : 0 < den) (hden' : 0 < den') (same : (num / den : ℚ) = num' / den')
    (negative : Bool) : round negative num den = round negative num' den' := by
  have pos : (0 : ℚ) < den := by exact_mod_cast hden
  have pos' : (0 : ℚ) < den' := by exact_mod_cast hden'
  rcases Nat.eq_zero_or_pos num with rfl | hnum
  · rw [Nat.cast_zero, zero_div, eq_comm, div_eq_zero_iff, or_iff_left pos'.ne', Nat.cast_eq_zero] at same
    rw [same, round, round, if_pos rfl, if_pos rfl]
  · have hnum' : 0 < num' := by
      have : (0 : ℚ) < num' / den' := same ▸ div_pos (by exact_mod_cast hnum) pos
      exact_mod_cast (div_pos_iff_of_pos_right pos').mp this
    obtain ⟨lower, upper⟩ := fit_bounds hnum' hden'
    rw [← same] at lower upper
    have fits : fit num den = fit num' den' := fit_eq hnum hden lower upper
    have counts : units num den = units num' den' := by
      unfold units
      rw [fits]
      refine roundQuotient_congr (scaled_pos num hden _) (scaled_pos num' hden' _) ?_
      rw [scaled_eq num hden, scaled_eq num' hden', same]
    rw [round_eq hnum, round_eq hnum', fits, counts]

/-- The unit of a quotient that has no more than 53 bits of it, and as many if units can be smaller. -/
theorem unit_eq (hnum : 0 < num) (hden : 0 < den) (upper : (num / den : ℚ) < 2 ^ (exponent + 53))
    (least : -1074 ≤ exponent) (full : (2 : ℚ) ^ (exponent + 52) ≤ num / den ∨ exponent = -1074) :
    max (fit num den) (-1074) = exponent := by
  obtain ⟨lower', upper'⟩ := fit_bounds hnum hden
  have above := (zpow_lt_zpow_iff_right₀ (by norm_num)).mp (lower'.trans_lt upper)
  rcases full with lower | rfl
  · have below := (zpow_lt_zpow_iff_right₀ (by norm_num)).mp (lower.trans_lt upper')
    omega
  · omega

/-- What is a binary64 number is kept. -/
theorem round_exact (hden : 0 < den) (canonical : CanonicalParts mantissa exponent)
    (exact_ : (num / den : ℚ) = mantissa * 2 ^ exponent) (negative : Bool) :
    round negative num den = .finite negative mantissa exponent canonical := by
  have pos : (0 : ℚ) < den := by exact_mod_cast hden
  obtain ⟨wide, full'⟩ := mantissa_bounds canonical
  obtain ⟨width, least, -, full⟩ := id canonical
  rcases Nat.eq_zero_or_pos mantissa with rfl | hmantissa
  · have zero_ : num = 0 := by
      simpa [pos.ne'] using exact_
    obtain rfl : exponent = -1074 := full.resolve_left (by decide)
    rw [zero_, round, if_pos rfl, zero, ofParts, dif_pos canonical]
  have hnum : 0 < num := by
    refine Nat.pos_of_ne_zero fun zero_ => ?_
    rw [zero_, Nat.cast_zero, zero_div] at exact_
    exact absurd exact_ (by positivity)
  have unit : max (fit num den) (-1074) = exponent := by
    refine unit_eq hnum hden ?_ least (full'.imp_left fun large => ?_)
    · rw [exact_, add_comm, zpow_add₀ two_ne_zero]
      gcongr
      linarith
    · rw [exact_, add_comm, zpow_add₀ two_ne_zero]
      gcongr
  have count : units num den = mantissa := by
    have near := units_near num hden
    rw [unit, exact_, mul_assoc, ← zpow_add₀ two_ne_zero, add_neg_cancel, zpow_zero, mul_one] at near
    exact eq_of_cast_near (near.trans_lt (by norm_num))
  rw [round_eq hnum, count, unit, if_neg (Nat.ne_of_lt width), ofParts, dif_pos canonical]

/-- The units that are counted are off by half of one at most. -/
theorem units_half (num : ℕ) (hden : 0 < den) :
    |(units num den * 2 ^ max (fit num den) (-1074) - num / den : ℚ)| ≤ 2 ^ max (fit num den) (-1074) / 2 := by
  have near := units_near num hden
  generalize max (fit num den) (-1074) = e at near ⊢
  have scale : (units num den * 2 ^ e - num / den : ℚ) = (units num den - num / den * 2 ^ (-e)) * 2 ^ e := by
    rw [sub_mul, mul_assoc, ← zpow_add₀ two_ne_zero, neg_add_cancel, zpow_zero, mul_one]
  rw [scale, abs_mul, abs_of_pos (by positivity : (0 : ℚ) < 2 ^ e)]
  calc |(units num den - num / den * 2 ^ (-e) : ℚ)| * 2 ^ e ≤ 1 / 2 * 2 ^ e := by gcongr
    _ = 2 ^ e / 2 := by ring

/-- Units that are not the least make a mantissa of 53 bits, or the next power of two. -/
theorem units_full (hnum : 0 < num) (hden : 0 < den) (normal : -1074 ≤ fit num den) :
    1 <<< 52 ≤ units num den ∧ units num den ≤ 1 <<< 53 := by
  obtain ⟨lower, upper⟩ := fit_bounds hnum hden
  obtain ⟨below, above⟩ := abs_le.mp (units_near num hden)
  rw [max_eq_left normal] at below above
  generalize fit num den = e at *
  have least : (2 : ℚ) ^ (52 : ℤ) ≤ num / den * 2 ^ (-e) := by
    rw [zpow_neg, ← div_eq_mul_inv, le_div_iff₀ (by positivity), ← zpow_add₀ two_ne_zero, add_comm]
    exact lower
  have most : (num / den * 2 ^ (-e) : ℚ) < 2 ^ (53 : ℤ) := by
    rw [zpow_neg, ← div_eq_mul_inv, div_lt_iff₀ (by positivity), ← zpow_add₀ two_ne_zero, add_comm]
    exact upper
  constructor
  · refine le_of_cast_lt ?_
    rw [cast_shift]
    push_cast
    linarith
  · refine le_of_cast_lt ?_
    rw [cast_shift]
    push_cast
    linarith

/-- A quotient that is neither too small nor too large is rounded to a full mantissa, and by half a unit at
most. -/
theorem round_nearest (hden : 0 < den) (least : (2 : ℚ) ^ (-1022 : ℤ) ≤ num / den)
    (most : (num / den : ℚ) < 2 ^ (1023 : ℤ)) (negative : Bool) :
    ∃ m e h, round negative num den = .finite negative m e h ∧ 1 <<< 52 ≤ m ∧
      |(m * 2 ^ e - num / den : ℚ)| ≤ 2 ^ e / 2 ∧ |(m * 2 ^ e - num / den : ℚ)| ≤ num / den / 2 ^ 53 := by
  have hnum : 0 < num := by
    refine Nat.pos_of_ne_zero fun zero_ => ?_
    rw [zero_, Nat.cast_zero, zero_div] at least
    exact absurd least (not_le.mpr (by positivity))
  obtain ⟨lower, upper⟩ := fit_bounds hnum hden
  have normal : -1074 ≤ fit num den := by
    have := (zpow_lt_zpow_iff_right₀ (by norm_num)).mp (least.trans_lt upper)
    omega
  have bounded : fit num den ≤ 970 := by
    have := (zpow_lt_zpow_iff_right₀ (by norm_num)).mp (lower.trans_lt most)
    omega
  obtain ⟨full, width⟩ := units_full hnum hden normal
  have half := units_half num hden
  have rounded : round negative num den = _ := round_eq hnum negative
  rw [max_eq_left normal] at half rounded
  generalize units num den = count at half rounded full width
  generalize fit num den = e at *
  have relative : (2 ^ e / 2 : ℚ) ≤ num / den / 2 ^ 53 := by
    have parts : (2 : ℚ) ^ (e + 52) = 2 ^ e / 2 * 2 ^ 53 := by
      rw [zpow_add₀ two_ne_zero]
      norm_num
      ring
    rw [le_div_iff₀ (by positivity), ← parts]
    exact lower
  rw [rounded]
  split
  · rename_i carried
    have canonical : CanonicalParts (1 <<< 52) (e + 1) := ⟨by decide, by omega, by omega, .inl (le_refl _)⟩
    refine ⟨_, _, canonical, by rw [ofParts, dif_pos canonical], le_refl _, ?_, ?_⟩
    · rw [carried_eq, ← carried]
      refine half.trans ?_
      gcongr
      · norm_num
      · omega
    · rw [carried_eq, ← carried]
      exact half.trans relative
  · rename_i short
    have canonical : CanonicalParts count e := ⟨by omega, normal, by omega, .inl full⟩
    exact ⟨_, _, canonical, by rw [ofParts, dif_pos canonical], full, half, half.trans relative⟩

end Round
end Clickstream.Binary64
