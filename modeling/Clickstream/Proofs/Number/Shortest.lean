import Mathlib.Data.Nat.Cast.Order.Field
import Mathlib.Tactic.Ring
import Clickstream.Number.Shortest
import Clickstream.Proofs.Number.Nearest

/-! The shortest digits of a number stand for a decimal that is rounded back to it. That no fewer digits do
is not asserted. -/
namespace Clickstream.Binary64

/-- A decimal as a rational. -/
def Digits.toRat (d : Digits) : ℚ := d.digits * 10 ^ d.power

/-- The rational lies between the ends, or on one of them if they belong to the neighbourhood. -/
def Neighbourhood.Contains (n : Neighbourhood) (q : ℚ) : Prop :=
  if n.closed then (n.low / n.den : ℚ) ≤ q ∧ q ≤ n.high / n.den
  else (n.low / n.den : ℚ) < q ∧ q < n.high / n.den

section Tens
variable {num den : ℕ}

theorem ten_zpow_eq (k : ℤ) : (10 : ℚ) ^ k = 10 ^ k.toNat / 10 ^ (-k).toNat := by
  rw [← zpow_natCast, ← zpow_natCast, ← zpow_sub₀ (by norm_num)]
  congr 1
  omega

private theorem ten_pow_le (hden : 0 < den) (k : ℤ) :
    10 ^ k.toNat * den ≤ num * 10 ^ (-k).toNat ↔ (10 : ℚ) ^ k ≤ num / den := by
  have hden' : (0 : ℚ) < den := by exact_mod_cast hden
  rw [ten_zpow_eq, div_le_div_iff₀ (by positivity) hden']
  exact_mod_cast Iff.rfl

/-- A power of ten below a power of two, told by their exponents. -/
theorem ten_zpow_le {k n : ℤ} (small : 0 ≤ n ∧ 10 * k ≤ 3 * n ∨ n ≤ 0 ∧ 93 * k ≤ 28 * n) :
    (10 : ℚ) ^ k ≤ 2 ^ n := by
  have ten : (1 : ℚ) ≤ 10 := by norm_num
  rcases small with ⟨up, small⟩ | ⟨down, small⟩
  · refine le_of_pow_le_pow_left₀ (n := 10) (by norm_num) (by positivity) ?_
    calc ((10 : ℚ) ^ k) ^ 10 = 10 ^ (10 * k) := by rw [← zpow_natCast, ← zpow_mul]; congr 1; ring
      _ ≤ 10 ^ (3 * n) := zpow_le_zpow_right₀ ten small
      _ = ((10 : ℚ) ^ (3 : ℤ)) ^ n := zpow_mul ..
      _ ≤ ((2 : ℚ) ^ (10 : ℤ)) ^ n := zpow_le_zpow_left₀ up (by positivity) (by norm_num)
      _ = (2 ^ n) ^ 10 := by rw [← zpow_natCast, ← zpow_mul, ← zpow_mul]; congr 1; ring
  · obtain ⟨j, rfl⟩ : ∃ j, n = -j := ⟨-n, by omega⟩
    refine le_of_pow_le_pow_left₀ (n := 93) (by norm_num) (by positivity) ?_
    calc ((10 : ℚ) ^ k) ^ 93 = 10 ^ (93 * k) := by rw [← zpow_natCast, ← zpow_mul]; congr 1; ring
      _ ≤ 10 ^ (28 * -j) := zpow_le_zpow_right₀ ten small
      _ = (((10 : ℚ) ^ (28 : ℤ)) ^ j)⁻¹ := by rw [zpow_mul, zpow_neg]
      _ ≤ (((2 : ℚ) ^ (93 : ℤ)) ^ j)⁻¹ :=
        inv_anti₀ (by positivity) (zpow_le_zpow_left₀ (by omega) (by positivity) (by norm_num))
      _ = (2 ^ (-j)) ^ 93 := by
        rw [← zpow_natCast, ← zpow_mul, ← zpow_mul, ← zpow_neg]; congr 1; push_cast; ring

private theorem ten_decimalSize_le (hden : 0 < den) (fuel : ℕ) (start : ℤ)
    (reached : (10 : ℚ) ^ (start - fuel) ≤ num / den) :
    (10 : ℚ) ^ decimalSize num den fuel start ≤ num / den := by
  induction fuel generalizing start with
  | zero => simpa [decimalSize] using reached
  | succ fuel ih =>
    rw [decimalSize]
    split
    · rename_i fits
      exact (ten_pow_le hden start).mp fits
    · refine ih _ ?_
      have next : start - 1 - fuel = start - (fuel + 1 : ℕ) := by push_cast; ring
      rwa [next]

private theorem ten_sizeBound_le (hnum : 0 < num) (hden : 0 < den)
    (least : (2 : ℚ) ^ (-1075 : ℤ) ≤ num / den) (most : (num / den : ℚ) ≤ 2 ^ (1025 : ℤ)) :
    (10 : ℚ) ^ (sizeBound num den - 4) ≤ num / den := by
  obtain ⟨lower, upper⟩ := log2_bounds hnum hden
  refine le_trans (ten_zpow_le ?_) lower.le
  have inside := (zpow_lt_zpow_iff_right₀ (by norm_num)).mp (lower.trans_le most)
  have inside' := (zpow_lt_zpow_iff_right₀ (by norm_num)).mp (least.trans_lt upper)
  unfold sizeBound
  simp only [Int.fdiv_eq_ediv_of_nonneg _ (show (0 : ℤ) ≤ 100000 by decide)]
  omega

end Tens

section Grid
variable {tie : Tie} {n : Neighbourhood} {power : ℤ}

theorem holds_iff (hden : 0 < n.den) (point : Digits) :
    n.holds point = true ↔ n.Contains point.toRat := by
  have hden' : (0 : ℚ) < n.den := by exact_mod_cast hden
  have down : (0 : ℚ) < 10 ^ (-point.power).toNat := by positivity
  unfold Neighbourhood.holds Neighbourhood.Contains Digits.toRat
  rw [ten_zpow_eq, ← mul_div_assoc]
  split
  · rw [div_le_div_iff₀ hden' down, div_le_div_iff₀ down hden', Bool.and_eq_true, decide_eq_true_eq,
      decide_eq_true_eq]
    exact_mod_cast Iff.rfl
  · rw [div_lt_div_iff₀ hden' down, div_lt_div_iff₀ down hden', Bool.and_eq_true, decide_eq_true_eq,
      decide_eq_true_eq]
    exact_mod_cast Iff.rfl

theorem roundQuotient_cases (tie : Tie) (num den : ℕ) :
    roundQuotient tie num den = num / den ∨ roundQuotient tie num den = num / den + 1 := by
  unfold roundQuotient
  simp only
  split
  · exact .inl rfl
  · split
    · exact .inr rfl
    · cases tie with
      | toEven =>
        simp only
        omega
      | away => exact .inr rfl

theorem gridPoint?_holds {point : Digits} (found : gridPoint? tie n power = some point) :
    n.holds point = true := by
  unfold gridPoint? at found
  simp only at found
  split at found
  · cases found
  · obtain rfl := Option.some.inj found
    assumption
  · obtain rfl := Option.some.inj found
    assumption
  · obtain rfl := Option.some.inj found
    rcases roundQuotient_cases tie (n.num * 10 ^ (-power).toNat) (n.den * 10 ^ power.toNat) with
      floor | ceiling
    · rw [floor]
      assumption
    · rw [ceiling]
      assumption

/-- The point of a grid next above the number. -/
def Neighbourhood.ceiling (n : Neighbourhood) (power : ℤ) : Digits :=
  ⟨n.num * 10 ^ (-power).toNat / (n.den * 10 ^ power.toNat) + 1, power⟩

theorem ceiling_near (hden : 0 < n.den) (power : ℤ) :
    (n.num / n.den : ℚ) < (n.ceiling power).toRat ∧
      (n.ceiling power).toRat ≤ n.num / n.den + 10 ^ power := by
  have step : (0 : ℚ) < 10 ^ power := by positivity
  have unit : 0 < n.den * 10 ^ power.toNat := by positivity
  have value : (n.num / n.den : ℚ) =
      (n.num * 10 ^ (-power).toNat : ℕ) / (n.den * 10 ^ power.toNat : ℕ) * 10 ^ power := by
    have hden' : (n.den : ℚ) ≠ 0 := by positivity
    rw [ten_zpow_eq]
    push_cast
    field_simp
  unfold Neighbourhood.ceiling Digits.toRat
  generalize n.num * 10 ^ (-power).toNat = top at value
  generalize n.den * 10 ^ power.toNat = steps at unit value
  have floor : ((top / steps : ℕ) : ℚ) ≤ top / steps := Nat.cast_div_le
  have above : (top / steps : ℚ) < (top / steps + 1 : ℕ) := by
    rw [div_lt_iff₀ (by exact_mod_cast unit)]
    exact_mod_cast Nat.lt_mul_of_div_lt (Nat.lt_succ_self _) unit
  rw [value]
  constructor
  · gcongr
  · calc ((top / steps + 1 : ℕ) * 10 ^ power : ℚ) = (top / steps : ℕ) * 10 ^ power + 10 ^ power := by
          push_cast
          ring
      _ ≤ top / steps * 10 ^ power + 10 ^ power := by gcongr

/-- A grid that has a point in the neighbourhood next above the number is not passed over. -/
theorem gridPoint?_of_ceiling (above : n.holds (n.ceiling power) = true) :
    gridPoint? tie n power ≠ none := by
  unfold Neighbourhood.ceiling at above
  unfold gridPoint?
  simp only [above]
  split <;> simp_all

/-- Grids are tried until one is found, so a grid within reach bounds the search. -/
theorem firstGrid_holds {fuel k : ℕ} (reached : k < fuel) (found : gridPoint? tie n (power - k) ≠ none) :
    n.holds (firstGrid tie n fuel power) = true := by
  induction fuel generalizing power k with
  | zero => cases reached
  | succ fuel ih =>
    rw [firstGrid]
    split
    · rename_i here
      exact gridPoint?_holds here
    · rename_i missed
      cases k with
      | zero =>
        rw [Nat.cast_zero, sub_zero] at found
        exact absurd missed found
      | succ k =>
        refine ih (Nat.lt_of_succ_lt_succ reached) ?_
        have next : power - 1 - k = power - (k + 1 : ℕ) := by push_cast; ring
        rwa [next]

theorem trimmed_toRat (fuel : ℕ) (d : Digits) : (d.trimmed fuel).toRat = d.toRat := by
  induction fuel generalizing d with
  | zero => rfl
  | succ fuel ih =>
    rw [Digits.trimmed]
    split
    · rename_i round_
      have whole : d.digits = d.digits / 10 * 10 := by omega
      rw [ih, Digits.toRat, Digits.toRat, zpow_add_one₀ (by norm_num)]
      conv_rhs => rw [whole]
      push_cast
      ring
    · rfl

end Grid

section Neighbours
variable {mantissa : ℕ} {exponent : ℤ}

/-- Quarters of a unit between a number and the lower end of its neighbourhood. -/
def gap (mantissa : ℕ) (exponent : ℤ) : ℕ := if mantissa = 1 <<< 52 ∧ exponent ≠ -1074 then 1 else 2

theorem gap_le (mantissa : ℕ) (exponent : ℤ) : 1 ≤ gap mantissa exponent ∧ gap mantissa exponent ≤ 2 := by
  unfold gap
  split <;> decide

theorem neighbourhood_den_pos (mantissa : ℕ) (exponent : ℤ) : 0 < (neighbourhood mantissa exponent).den :=
  scaled_pos 1 one_pos (2 - exponent)

private theorem quarters (k : ℕ) (exponent : ℤ) :
    ((k * (scaled 1 1 (2 - exponent)).1 : ℕ) / (scaled 1 1 (2 - exponent)).2 : ℚ) = k / 4 * 2 ^ exponent := by
  have unit := scaled_eq 1 one_pos (2 - exponent)
  have back : -(2 - exponent) = exponent - 2 := by ring
  rw [Nat.cast_mul, mul_div_assoc, unit, back, zpow_sub₀ two_ne_zero]
  norm_num
  ring

theorem neighbourhood_value (mantissa : ℕ) (exponent : ℤ) :
    ((neighbourhood mantissa exponent).num / (neighbourhood mantissa exponent).den : ℚ) =
      mantissa * 2 ^ exponent := by
  refine (quarters (4 * mantissa) exponent).trans ?_
  push_cast
  ring

theorem contains_iff (nonzero : mantissa ≠ 0) (q : ℚ) :
    (neighbourhood mantissa exponent).Contains q ↔
      if mantissa % 2 = 0 then
        (mantissa - gap mantissa exponent / 4 : ℚ) * 2 ^ exponent ≤ q ∧
          q ≤ (mantissa + 1 / 2) * 2 ^ exponent
      else
        (mantissa - gap mantissa exponent / 4 : ℚ) * 2 ^ exponent < q ∧
          q < (mantissa + 1 / 2) * 2 ^ exponent := by
  have small : gap mantissa exponent ≤ 4 * mantissa := by
    have := (gap_le mantissa exponent).2
    omega
  have low : ((neighbourhood mantissa exponent).low / (neighbourhood mantissa exponent).den : ℚ) =
      (mantissa - gap mantissa exponent / 4 : ℚ) * 2 ^ exponent := by
    refine (quarters (4 * mantissa - gap mantissa exponent) exponent).trans ?_
    push_cast [small]
    ring
  have high : ((neighbourhood mantissa exponent).high / (neighbourhood mantissa exponent).den : ℚ) =
      (mantissa + 1 / 2) * 2 ^ exponent := by
    refine (quarters (4 * mantissa + 2) exponent).trans ?_
    push_cast
    ring
  have closed : (neighbourhood mantissa exponent).closed = decide (mantissa % 2 = 0) := rfl
  rw [Neighbourhood.Contains, low, high, closed]
  simp only [decide_eq_true_eq]

private theorem contains_above (nonzero : mantissa ≠ 0) {q : ℚ} (above : mantissa * 2 ^ exponent < q)
    (near : q < (mantissa + 1 / 2) * 2 ^ exponent) : (neighbourhood mantissa exponent).Contains q := by
  have lower : (mantissa - gap mantissa exponent / 4 : ℚ) * 2 ^ exponent < q := by
    refine lt_of_le_of_lt ?_ above
    gcongr
    have : (0 : ℚ) ≤ gap mantissa exponent := Nat.cast_nonneg _
    linarith
  rw [contains_iff nonzero]
  split
  · exact ⟨lower.le, near.le⟩
  · exact ⟨lower, near⟩

/-- A number is between two powers of two, far from the ends of the range that sizes are searched in. -/
theorem value_bounds (nonzero : mantissa ≠ 0) (canonical : CanonicalParts mantissa exponent) :
    (2 : ℚ) ^ (-1074 : ℤ) ≤ mantissa * 2 ^ exponent ∧
      (mantissa * 2 ^ exponent : ℚ) < 2 ^ (1024 : ℤ) := by
  obtain ⟨wide, -⟩ := mantissa_bounds canonical
  obtain ⟨-, least, greatest, -⟩ := canonical
  have one : (1 : ℚ) ≤ mantissa := by exact_mod_cast Nat.one_le_iff_ne_zero.mpr nonzero
  constructor
  · calc (2 : ℚ) ^ (-1074 : ℤ) ≤ 1 * 2 ^ exponent := by
          rw [one_mul]
          exact zpow_le_zpow_right₀ (by norm_num) least
      _ ≤ mantissa * 2 ^ exponent := by gcongr
  · calc (mantissa * 2 ^ exponent : ℚ) < 2 ^ (53 : ℤ) * 2 ^ exponent := by
          gcongr
          linarith
      _ = 2 ^ (53 + exponent) := by rw [zpow_add₀ two_ne_zero]
      _ ≤ 2 ^ (1024 : ℤ) := zpow_le_zpow_right₀ (by norm_num) (by omega)

private theorem gridPoint?_fine (nonzero : mantissa ≠ 0) (width : mantissa < 1 <<< 53) {size : ℤ}
    (sized : (10 : ℚ) ^ size ≤ mantissa * 2 ^ exponent) (tie : Tie) :
    gridPoint? tie (neighbourhood mantissa exponent) (size - (17 : ℕ)) ≠ none := by
  have hden := neighbourhood_den_pos mantissa exponent
  have value := neighbourhood_value mantissa exponent
  have wide : (mantissa : ℚ) < 2 ^ 53 := by exact_mod_cast width
  have positive : (0 : ℚ) < 2 ^ exponent := by positivity
  have fine : (10 : ℚ) ^ (size - (17 : ℕ)) < 2 ^ exponent / 2 := by
    rw [zpow_sub₀ (by norm_num), zpow_natCast, div_lt_iff₀ (by positivity)]
    calc (10 : ℚ) ^ size ≤ mantissa * 2 ^ exponent := sized
      _ < 2 ^ 53 * 2 ^ exponent := by gcongr
      _ ≤ 2 ^ exponent / 2 * 10 ^ 17 := by linarith
  obtain ⟨above, near⟩ := ceiling_near hden (size - (17 : ℕ))
  rw [value] at above near
  apply gridPoint?_of_ceiling
  rw [holds_iff hden]
  refine contains_above nonzero above (near.trans_lt ?_)
  rw [add_mul]
  linarith

/-- The shortest digits of a number lie in its neighbourhood: no number needs more than seventeen. -/
theorem shortest_contains (nonzero : mantissa ≠ 0) (canonical : CanonicalParts mantissa exponent)
    (tie : Tie) : (neighbourhood mantissa exponent).Contains (shortest tie mantissa exponent).toRat := by
  have hden := neighbourhood_den_pos mantissa exponent
  have value := neighbourhood_value mantissa exponent
  obtain ⟨least, most⟩ := value_bounds nonzero canonical
  have hnum : 0 < (neighbourhood mantissa exponent).num := by
    refine Nat.pos_of_ne_zero fun zero_ => ?_
    rw [zero_, Nat.cast_zero, zero_div] at value
    exact absurd value.symm (by positivity)
  have reached : (10 : ℚ) ^ (sizeBound (neighbourhood mantissa exponent).num
      (neighbourhood mantissa exponent).den - (4 : ℕ)) ≤ mantissa * 2 ^ exponent := by
    rw [← value] at least most ⊢
    refine ten_sizeBound_le hnum hden ?_ ?_
    · exact (zpow_le_zpow_right₀ (by norm_num) (by norm_num)).trans least
    · exact most.le.trans (zpow_le_zpow_right₀ (by norm_num) (by norm_num))
  have sized := ten_decimalSize_le hden 4 _ (value ▸ reached)
  rw [value] at sized
  have found := gridPoint?_fine nonzero canonical.1 sized tie
  rw [shortest, trimmed_toRat, ← holds_iff hden]
  exact firstGrid_holds (by decide) found

theorem contains_pos (nonzero : mantissa ≠ 0) {q : ℚ}
    (inside : (neighbourhood mantissa exponent).Contains q) : 0 < q := by
  have one : (1 : ℚ) ≤ mantissa := by exact_mod_cast Nat.one_le_iff_ne_zero.mpr nonzero
  have small : (gap mantissa exponent : ℚ) ≤ 2 := by exact_mod_cast (gap_le mantissa exponent).2
  have end_ : (0 : ℚ) < (mantissa - gap mantissa exponent / 4) * 2 ^ exponent := by
    refine mul_pos ?_ (by positivity)
    linarith
  rw [contains_iff nonzero] at inside
  split at inside
  · exact end_.trans_le inside.1
  · exact end_.trans inside.1

/-- The digits of a number that is not zero are not zero. -/
theorem shortest_pos (nonzero : mantissa ≠ 0) (canonical : CanonicalParts mantissa exponent) (tie : Tie) :
    0 < (shortest tie mantissa exponent).digits := by
  have positive := contains_pos nonzero (shortest_contains nonzero canonical tie)
  refine Nat.pos_of_ne_zero fun zero_ => ?_
  rw [Digits.toRat, zero_, Nat.cast_zero, zero_mul] at positive
  exact lt_irrefl _ positive

end Neighbours

section Rounded
variable {num den mantissa n : ℕ} {exponent : ℤ}

private theorem roundQuotient_tie {k : ℕ} (half : 2 * num = (2 * k + 1) * den) :
    roundQuotient .toEven num den % 2 = 0 := by
  have twice : 2 * (num % den) = den := by
    rw [← Nat.mul_mod_mul_left, half, Nat.mul_mod_mul_right, Nat.mul_add_mod, Nat.one_mod, Nat.one_mul]
  unfold roundQuotient
  simp only [twice, lt_irrefl, ↓reduceIte]
  omega

/-- Of one at most half a unit away the nearest integer is this one, if it is even or closer. -/
theorem roundQuotient_toEven_eq (positive : 0 < den) (near : |(num / den : ℚ) - n| ≤ 1 / 2)
    (closer : n % 2 = 0 ∨ |(num / den : ℚ) - n| < 1 / 2) : roundQuotient .toEven num den = n := by
  rcases lt_or_eq_of_le near with inside | half
  · exact roundQuotient_eq positive inside
  · have even : n % 2 = 0 := closer.resolve_right (by rw [half]; exact lt_irrefl _)
    have hden : (0 : ℚ) < den := by exact_mod_cast positive
    obtain ⟨lower, upper⟩ := abs_le.mp (abs_roundQuotient_sub_le .toEven num positive)
    have rounded : roundQuotient .toEven num den % 2 = 0 := by
      rcases (abs_eq (by norm_num)).mp half with above | below
      · refine roundQuotient_tie (k := n) ?_
        have : (num : ℚ) = (n + 1 / 2) * den := by rw [← div_eq_iff hden.ne']; linarith
        have : (2 * num : ℚ) = (2 * n + 1) * den := by linarith
        exact_mod_cast this
      · have least : 1 ≤ n := by
          have : (0 : ℚ) < n := by
            have : (0 : ℚ) ≤ num / den := by positivity
            linarith
          exact_mod_cast this
        refine roundQuotient_tie (k := n - 1) ?_
        have : (num : ℚ) = (n - 1 / 2) * den := by rw [← div_eq_iff hden.ne']; linarith
        have : (2 * num : ℚ) = (2 * (n - 1 : ℕ) + 1) * den := by
          push_cast [least]
          linarith
        exact_mod_cast this
    have above : (roundQuotient .toEven num den : ℚ) ≤ (n + 1 : ℕ) := by
      push_cast
      linarith [(abs_le.mp near).2]
    have below : (n : ℚ) ≤ (roundQuotient .toEven num den + 1 : ℕ) := by
      push_cast
      linarith [(abs_le.mp near).1]
    have above' := Nat.cast_le.mp above
    have below' := Nat.cast_le.mp below
    omega

private theorem units_eq (hden : 0 < den) (unit : max (fit num den) (-1074) = exponent)
    (near : |(num / den : ℚ) * 2 ^ (-exponent) - n| ≤ 1 / 2)
    (closer : n % 2 = 0 ∨ |(num / den : ℚ) * 2 ^ (-exponent) - n| < 1 / 2) : units num den = n := by
  unfold units
  rw [unit]
  have scaled_ := scaled_eq num hden exponent
  rw [← scaled_] at near closer
  exact roundQuotient_toEven_eq (scaled_pos num hden exponent) near closer

private theorem contains_units (nonzero : mantissa ≠ 0) {x : ℚ}
    (inside : (neighbourhood mantissa exponent).Contains (x * 2 ^ exponent)) :
    (mantissa - gap mantissa exponent / 4 : ℚ) ≤ x ∧ x ≤ mantissa + 1 / 2 ∧
      (mantissa % 2 = 0 ∨ (mantissa - gap mantissa exponent / 4 : ℚ) < x ∧ x < mantissa + 1 / 2) := by
  have unit : (0 : ℚ) < 2 ^ exponent := by positivity
  rw [contains_iff nonzero] at inside
  simp only [mul_le_mul_iff_left₀ unit, mul_lt_mul_iff_left₀ unit] at inside
  split at inside
  · rename_i even
    exact ⟨inside.1, inside.2, .inl even⟩
  · exact ⟨inside.1.le, inside.2.le, .inr inside⟩

private theorem round_same_unit (canonical : CanonicalParts mantissa exponent) (hnum : 0 < num) (hden : 0 < den)
    (fits : max (fit num den) (-1074) = exponent)
    (near : |(num / den : ℚ) * 2 ^ (-exponent) - mantissa| ≤ 1 / 2)
    (closer : mantissa % 2 = 0 ∨ |(num / den : ℚ) * 2 ^ (-exponent) - mantissa| < 1 / 2) (negative : Bool) :
    round negative num den = .finite negative mantissa exponent canonical := by
  have counted : units num den = mantissa := units_eq hden fits near closer
  rw [round_eq hnum, counted, fits, if_neg (Nat.ne_of_lt canonical.1), ofParts, dif_pos canonical]

private theorem round_half_unit (canonical : CanonicalParts (1 <<< 52) exponent) (hnum : 0 < num) (hden : 0 < den)
    (fits : max (fit num den) (-1074) = exponent - 1)
    (near : |(num / den : ℚ) * 2 ^ (-exponent) - 2 ^ (52 : ℤ)| ≤ 1 / 4) (negative : Bool) :
    round negative num den = .finite negative (1 <<< 52) exponent canonical := by
  have double : (num / den : ℚ) * (2 : ℚ) ^ (-(exponent - 1)) - (1 <<< 53 : ℕ) =
      2 * (num / den * 2 ^ (-exponent) - 2 ^ (52 : ℤ)) := by
    have next : -(exponent - 1) = -exponent + 1 := by ring
    rw [next, zpow_add_one₀ two_ne_zero, cast_shift]
    norm_num
    ring
  have counted : units num den = 1 <<< 53 := by
    refine units_eq hden fits ?_ (.inl (by decide))
    rw [double, abs_mul, abs_two]
    linarith
  rw [round_eq hnum, counted, fits, if_pos rfl, sub_add_cancel, ofParts, dif_pos canonical]

/-- What lies in the neighbourhood of a number is rounded to it. -/
theorem round_of_contains (nonzero : mantissa ≠ 0) (canonical : CanonicalParts mantissa exponent)
    (hden : 0 < den) (inside : (neighbourhood mantissa exponent).Contains (num / den)) (negative : Bool) :
    round negative num den = .finite negative mantissa exponent canonical := by
  have hnum : 0 < num := by
    have positive := contains_pos nonzero inside
    refine Nat.pos_of_ne_zero fun zero_ => ?_
    rw [zero_, Nat.cast_zero, zero_div] at positive
    exact lt_irrefl _ positive
  obtain ⟨wide, full⟩ := mantissa_bounds canonical
  have least : -1074 ≤ exponent := canonical.2.1
  have unit : (0 : ℚ) < 2 ^ exponent := by positivity
  have small : (gap mantissa exponent : ℚ) ≤ 2 := by exact_mod_cast (gap_le mantissa exponent).2
  have value : (num / den : ℚ) = num / den * 2 ^ (-exponent) * 2 ^ exponent := by
    rw [mul_assoc, ← zpow_add₀ two_ne_zero, neg_add_cancel, zpow_zero, mul_one]
  obtain ⟨lower, upper, strict⟩ := contains_units nonzero (value ▸ inside)
  have below : (num / den : ℚ) < 2 ^ (exponent + 53) := by
    rw [value, add_comm, zpow_add₀ two_ne_zero]
    gcongr
    linarith
  by_cases regular : (2 : ℚ) ^ (exponent + 52) ≤ num / den ∨ exponent = -1074
  · refine round_same_unit canonical hnum hden (unit_eq hnum hden below least regular) ?_ ?_ negative
    · rw [abs_le]
      constructor <;> linarith
    · refine strict.imp_right fun inner => ?_
      rw [abs_lt]
      constructor <;> linarith [inner.1, inner.2]
  · obtain ⟨short, normal⟩ := not_or.mp regular
    rw [not_le, value, add_comm, zpow_add₀ two_ne_zero, mul_lt_mul_iff_left₀ unit] at short
    obtain rfl : mantissa = 1 <<< 52 := by
      refine le_antisymm (le_of_cast_lt ?_) (canonical.2.2.2.resolve_right normal)
      rw [cast_shift]
      push_cast
      linarith
    have narrow : gap (1 <<< 52) exponent = 1 := if_pos ⟨rfl, normal⟩
    rw [narrow, cast_shift] at lower
    have fits : max (fit num den) (-1074) = exponent - 1 := by
      have top : exponent - 1 + 53 = 52 + exponent := by ring
      have bottom : exponent - 1 + 52 = 51 + exponent := by ring
      refine unit_eq hnum hden ?_ (by omega) (.inl ?_)
      · rw [top, value, zpow_add₀ two_ne_zero]
        gcongr
      · rw [bottom, value, zpow_add₀ two_ne_zero]
        gcongr
        norm_num at lower ⊢
        linarith
    refine round_half_unit canonical hnum hden fits ?_ negative
    rw [abs_le]
    norm_num at lower short ⊢
    constructor <;> linarith

end Rounded

end Clickstream.Binary64
