import Mathlib.Algebra.Order.Ring.Pow
import Mathlib.Tactic.Ring
import Clickstream.Number.Decimal
import Clickstream.Proofs.Number.Rounding

/-! How the digits of a decimal are found: factors five are multiplied in, and decimals are dropped. -/
namespace Clickstream.Decimal.Scaling

/-- The number that a scaling stands for. -/
def toRat (s : Scaling) : ℚ := s.mantissa * 5 ^ s.five * 10 ^ s.ten

/-- A mantissa that stands beside a power of two, as it is first written down. -/
theorem toRat_binary (mantissa : ℕ) (exponent : ℤ) :
    toRat ⟨mantissa, -exponent, exponent⟩ = mantissa * 2 ^ exponent := by
  have split : (10 : ℚ) ^ exponent = 2 ^ exponent * 5 ^ exponent := by
    rw [← mul_zpow]
    norm_num
  rw [toRat, zpow_neg, split]
  field_simp

section Raise
variable {s next r : Scaling} {fuel : ℕ}

/-- What is left of a number after its factors five were multiplied in. -/
structure Raised (s r : Scaling) : Prop where
  five : r.five = 0
  ten : s.ten ≤ r.ten ∧ r.ten ≤ s.ten + s.five
  room : r.mantissa < 1 <<< 96
  upper : r.toRat ≤ s.toRat
  /-- A bit is lost only from a mantissa without room for one more factor. -/
  lower : s.toRat * (1 - 5 / 2 ^ 96) ^ s.five.toNat ≤ r.toRat

theorem raise_done (done : s.five ≤ 0) (fuel : ℕ) : raise fuel s = s := by
  cases fuel with
  | zero => rfl
  | succ fuel => rw [raise, if_pos done]

/-- The powers of two of a whole number are halved away. -/
theorem raise_whole (whole : ℕ) {k : ℕ} (enough : k ≤ fuel) :
    raise fuel ⟨whole * 2 ^ k, k, -k⟩ = ⟨whole, 0, 0⟩ := by
  induction k generalizing fuel with
  | zero =>
    rw [Nat.pow_zero, Nat.mul_one]
    exact raise_done (le_refl _) fuel
  | succ k ih =>
    obtain ⟨fuel, rfl⟩ : ∃ n, fuel = n + 1 := ⟨fuel - 1, by omega⟩
    have doubled : whole * 2 ^ (k + 1) = 2 * (whole * 2 ^ k) := by
      rw [pow_succ']
      ring
    have less : (⟨2 * (whole * 2 ^ k) / 2, ((k + 1 : ℕ) : ℤ) - 1, -((k + 1 : ℕ) : ℤ) + 1⟩ : Scaling) =
        ⟨whole * 2 ^ k, k, -k⟩ := by
      congr 1 <;> omega
    rw [doubled, raise, if_neg (by simp only; omega), if_pos (by simp only; omega), less]
    exact ih (by omega)

private theorem Raised.refl (done : s.five = 0) (room : s.mantissa < 1 <<< 96) : Raised s s :=
  ⟨done, by omega, room, le_refl _, by simp [done]⟩

private theorem Raised.trans (five : next.five + 1 = s.five) (positive : 0 ≤ next.five)
    (ten : s.ten ≤ next.ten ∧ next.ten + next.five ≤ s.ten + s.five) (upper : next.toRat ≤ s.toRat)
    (lower : s.toRat * (1 - 5 / 2 ^ 96) ≤ next.toRat) (rest : Raised next r) : Raised s r := by
  have steps : s.five.toNat = next.five.toNat + 1 := by omega
  have tens := rest.ten
  refine ⟨rest.five, by omega, rest.room, rest.upper.trans upper, ?_⟩
  calc s.toRat * (1 - 5 / 2 ^ 96) ^ s.five.toNat
      = s.toRat * (1 - 5 / 2 ^ 96) * (1 - 5 / 2 ^ 96) ^ next.five.toNat := by
        rw [steps, pow_succ', ← mul_assoc]
    _ ≤ next.toRat * (1 - 5 / 2 ^ 96) ^ next.five.toNat := by
        gcongr
    _ ≤ r.toRat := rest.lower

private theorem toRat_half (s : Scaling) :
    (Scaling.mk (s.mantissa / 2) (s.five - 1) (s.ten + 1)).toRat =
      (s.mantissa - (s.mantissa % 2 : ℕ)) * 5 ^ s.five * 10 ^ s.ten := by
  have parts : (2 * (s.mantissa / 2 : ℕ) + (s.mantissa % 2 : ℕ) : ℚ) = s.mantissa := by
    exact_mod_cast Nat.div_add_mod s.mantissa 2
  simp only [toRat, zpow_sub_one₀ (by norm_num : (5 : ℚ) ≠ 0), zpow_add_one₀ (by norm_num : (10 : ℚ) ≠ 0)]
  rw [← parts]
  ring

private theorem toRat_times (s : Scaling) :
    (Scaling.mk (5 * s.mantissa) (s.five - 1) s.ten).toRat = s.toRat := by
  simp only [toRat, zpow_sub_one₀ (by norm_num : (5 : ℚ) ≠ 0)]
  push_cast
  ring

private theorem Raised.half (positive : 0 < s.five)
    (exact_ : s.mantissa % 2 = 0 ∨ 1 <<< 96 ≤ 5 * s.mantissa)
    (rest : Raised ⟨s.mantissa / 2, s.five - 1, s.ten + 1⟩ r) : Raised s r := by
  refine .trans (by simp) (by simp only; omega) (by simp only; omega) ?_ ?_ rest
  · rw [toRat_half, toRat]
    gcongr
    linarith [(Nat.cast_nonneg (s.mantissa % 2) : (0 : ℚ) ≤ _)]
  · rw [toRat_half, toRat]
    have lost : ((s.mantissa % 2 : ℕ) : ℚ) ≤ s.mantissa * (5 / 2 ^ 96) := by
      rcases exact_ with even | full
      · rw [even, Nat.cast_zero]
        positivity
      · have full' : (2 : ℚ) ^ 96 ≤ 5 * s.mantissa := by
          have : ((1 <<< 96 : ℕ) : ℚ) ≤ (5 * s.mantissa : ℕ) := Nat.cast_le.mpr full
          push_cast at this
          norm_num at this ⊢
          exact this
        have odd : ((s.mantissa % 2 : ℕ) : ℚ) ≤ 1 := by
          exact_mod_cast Nat.lt_succ_iff.mp (Nat.mod_lt s.mantissa two_pos)
        refine odd.trans ?_
        rw [← mul_div_assoc, le_div_iff₀ (by positivity)]
        linarith
    calc (s.mantissa * 5 ^ s.five * 10 ^ s.ten * (1 - 5 / 2 ^ 96) : ℚ)
        = (s.mantissa - s.mantissa * (5 / 2 ^ 96)) * 5 ^ s.five * 10 ^ s.ten := by ring
      _ ≤ (s.mantissa - (s.mantissa % 2 : ℕ)) * 5 ^ s.five * 10 ^ s.ten := by gcongr

private theorem Raised.times (positive : 0 < s.five)
    (rest : Raised ⟨5 * s.mantissa, s.five - 1, s.ten⟩ r) : Raised s r := by
  refine .trans (by simp) (by simp only; omega) (by simp only; omega) (toRat_times s).le ?_ rest
  rw [toRat_times, toRat]
  nlinarith [show (0 : ℚ) ≤ s.mantissa * 5 ^ s.five * 10 ^ s.ten by positivity]

theorem raise_raised (fuel : ℕ) (positive : 0 ≤ s.five) (enough : s.five ≤ fuel) (room : s.mantissa < 1 <<< 96) :
    Raised s (raise fuel s) := by
  induction fuel generalizing s with
  | zero => exact .refl (by omega) room
  | succ fuel ih =>
    rw [raise]
    split
    · exact .refl (by omega) room
    · have less : s.five - 1 ≤ fuel := by omega
      split
      · rename_i even
        exact .half (by omega) (.inl even) (ih (by simp only; omega) less (by simp only; omega))
      · split
        · rename_i fits
          exact .times (by omega) (ih (by simp only; omega) less fits)
        · rename_i full
          exact .half (by omega) (.inr (Nat.le_of_not_lt full))
            (ih (by simp only; omega) less (by simp only; omega))

/-- The bits that were lost do not come to much. -/
theorem Raised.near (raised : Raised s r) (few : s.five ≤ 1074) :
    s.toRat * (1 - 1 / 2 ^ 83) ≤ r.toRat := by
  refine le_trans ?_ raised.lower
  have positive : 0 ≤ s.toRat := by
    unfold toRat
    positivity
  have steps : (s.five.toNat : ℚ) ≤ 1074 := by
    exact_mod_cast (show s.five.toNat ≤ 1074 by omega)
  have bernoulli := one_add_mul_le_pow (show (-2 : ℚ) ≤ -(5 / 2 ^ 96) by norm_num) s.five.toNat
  rw [← sub_eq_add_neg] at bernoulli
  gcongr
  linarith

end Raise

section Lower
variable {mantissa fuel k : ℕ}

/-- A power of two is multiplied in if there is room for it. -/
theorem lower_up (room : mantissa < 1 <<< 96) (enough : k ≤ fuel) :
    lower fuel ⟨mantissa, -k, k⟩ =
      if mantissa * 2 ^ k < 1 <<< 96 then some ⟨mantissa * 2 ^ k, 0, 0⟩ else none := by
  induction k generalizing mantissa fuel with
  | zero =>
    rw [Nat.pow_zero, Nat.mul_one, if_pos room]
    cases fuel <;> rfl
  | succ k ih =>
    obtain ⟨fuel, rfl⟩ : ∃ n, fuel = n + 1 := ⟨fuel - 1, by omega⟩
    have doubled : mantissa * 2 ^ (k + 1) = 2 * mantissa * 2 ^ k := by
      rw [pow_succ']
      ring
    rw [lower, if_neg (by simp only; omega)]
    split
    · rename_i small
      have less : (⟨2 * mantissa, -((k + 1 : ℕ) : ℤ) + 1, ((k + 1 : ℕ) : ℤ) - 1⟩ : Scaling) =
          ⟨2 * mantissa, -k, k⟩ := by
        congr 1 <;> omega
      rw [less, ih (by simp only at small; omega) (by omega), doubled]
    · rename_i large
      rw [if_pos (by simp only; omega), if_neg]
      have : 2 * mantissa ≤ 2 * mantissa * 2 ^ k := Nat.le_mul_of_pos_right _ (by positivity)
      simp only at large
      omega

theorem lower_done {s : Scaling} (done : 0 ≤ s.five) (fuel : ℕ) : lower fuel s = some s := by
  cases fuel with
  | zero => rfl
  | succ fuel => rw [lower, if_pos done]

theorem settle_done {s : Scaling} (done : s.ten ≤ 0) (fuel : ℕ) : settle fuel s = some s := by
  cases fuel with
  | zero => rfl
  | succ fuel => rw [settle, if_pos done]

end Lower

section Drop
variable {s : Scaling} {fuel n : ℕ}

theorem dropDecimal_mantissa (s : Scaling) : s.dropDecimal.mantissa = (s.mantissa + 5) / 10 := by
  unfold dropDecimal
  simp only
  split <;> omega

/-- So many decimals are dropped, one after the other. -/
def dropped (n : ℕ) (s : Scaling) : Scaling := dropDecimal^[n] s

@[simp] theorem dropped_zero (s : Scaling) : dropped 0 s = s := rfl

theorem dropped_succ (n : ℕ) (s : Scaling) : dropped (n + 1) s = (dropped n s).dropDecimal :=
  Function.iterate_succ_apply' _ _ _

theorem dropped_succ' (n : ℕ) (s : Scaling) : dropped (n + 1) s = dropped n s.dropDecimal :=
  Function.iterate_succ_apply _ _ _

@[simp] theorem dropped_ten (n : ℕ) (s : Scaling) : (dropped n s).ten = s.ten + n := by
  induction n with
  | zero => simp
  | succ n ih =>
    rw [dropped_succ, dropDecimal, ih]
    push_cast
    ring

theorem dropped_mantissa_le (n : ℕ) (s : Scaling) : (dropped n s).mantissa ≤ s.mantissa := by
  induction n with
  | zero => exact le_refl _
  | succ n ih =>
    rw [dropped_succ, dropDecimal_mantissa]
    omega

/-- Halves are rounded up time and again, so the digits are less than five ninths too many, and less than
four ninths too few. -/
theorem dropped_bounds (n : ℕ) (s : Scaling) :
    9 * (10 ^ n * (dropped n s).mantissa) + 5 ≤ 9 * s.mantissa + 5 * 10 ^ n ∧
      9 * s.mantissa + 4 ≤ 9 * (10 ^ n * (dropped n s).mantissa) + 4 * 10 ^ n := by
  induction n with
  | zero => simp
  | succ n ih =>
    obtain ⟨most, least⟩ := ih
    generalize before : (dropped n s).mantissa = digits at most least
    have after : (dropped (n + 1) s).mantissa = (digits + 5) / 10 := by
      rw [dropped_succ, dropDecimal_mantissa, before]
    have step : 10 * ((digits + 5) / 10) ≤ digits + 5 ∧ digits ≤ 10 * ((digits + 5) / 10) + 4 := by omega
    have up := Nat.mul_le_mul_left (10 ^ n) step.1
    have down := Nat.mul_le_mul_left (10 ^ n) step.2
    rw [after, pow_succ, Nat.mul_assoc]
    rw [Nat.mul_add] at up down
    omega

/-- The digits that are kept after some decimals were dropped, against the number there was. -/
theorem dropped_near (n : ℕ) (whole : s.five = 0) :
    ((dropped n s).mantissa - s.toRat / 10 ^ (s.ten + n) : ℚ) < 5 / 9 ∧
      (s.toRat / 10 ^ (s.ten + n) - (dropped n s).mantissa : ℚ) < 4 / 9 := by
  obtain ⟨most, least⟩ := dropped_bounds n s
  have value : s.toRat / 10 ^ (s.ten + n) = s.mantissa / 10 ^ n := by
    rw [toRat, whole, zpow_zero, mul_one, zpow_add₀ (by norm_num), zpow_natCast, mul_div_mul_comm, mul_comm]
    field_simp
  have positive : (0 : ℚ) < 10 ^ n := by positivity
  have most' : (9 * (10 ^ n * (dropped n s).mantissa) + 5 : ℚ) ≤ 9 * s.mantissa + 5 * 10 ^ n := by
    exact_mod_cast most
  have least' : (9 * s.mantissa + 4 : ℚ) ≤ 9 * (10 ^ n * (dropped n s).mantissa) + 4 * 10 ^ n := by
    exact_mod_cast least
  have back : (s.mantissa / 10 ^ n * 10 ^ n : ℚ) = s.mantissa := div_mul_cancel₀ _ positive.ne'
  rw [value]
  constructor
  · refine lt_of_mul_lt_mul_right ?_ positive.le
    rw [sub_mul, back]
    linarith
  · refine lt_of_mul_lt_mul_right ?_ positive.le
    rw [sub_mul, back]
    linarith

/-- A number with less than ten left behind the 28th decimal is small. -/
theorem vanished_lt (whole : s.five = 0) (small : (dropped n s).mantissa < 10) (far : s.ten + n < -28) :
    s.toRat < 1 / 10 ^ 28 := by
  have left : s.toRat < 10 * 10 ^ (s.ten + n) := by
    rw [← div_lt_iff₀ (by positivity)]
    have : ((dropped n s).mantissa : ℚ) ≤ 9 := by exact_mod_cast Nat.lt_succ_iff.mp small
    linarith [(dropped_near n whole).2]
  calc s.toRat < 10 * 10 ^ (s.ten + n) := left
    _ ≤ 10 * 10 ^ (-29 : ℤ) := by
      gcongr
      · norm_num
      · omega
    _ = 1 / 10 ^ 28 := by norm_num

/-- What decimals are dropped for want of: there are no more than 28, or nothing is left. -/
theorem shorten_eq (fuel : ℕ) (decimals : s.ten ≤ 0) (enough : -28 - s.ten ≤ fuel) :
    (∃ n, shorten fuel s = dropped n s ∧ -28 ≤ s.ten + n ∧ s.ten + n ≤ 0 ∧ (n = 0 ∨ s.ten + n = -28)) ∨
      shorten fuel s = ⟨0, s.five, 0⟩ ∧ ∃ n, (dropped n s).mantissa < 10 ∧ s.ten + n < -28 := by
  induction fuel generalizing s with
  | zero => exact .inl ⟨0, rfl, by omega, by omega, .inl rfl⟩
  | succ fuel ih =>
    rw [shorten]
    split
    · exact .inl ⟨0, rfl, by omega, by omega, .inl rfl⟩
    · split
      · rename_i long nothing
        exact .inr ⟨rfl, 0, by simp only [dropped_zero]; omega, by omega⟩
      · have ten : s.dropDecimal.ten = s.ten + 1 := rfl
        obtain ⟨n, same, least, most, stop⟩ | ⟨same, n, small, long⟩ :=
          ih (s := s.dropDecimal) (by omega) (by omega)
        · exact .inl ⟨n + 1, by rw [same, dropped_succ'], by omega, by omega, .inr (by omega)⟩
        · exact .inr ⟨same, n + 1, by rwa [dropped_succ'], by omega⟩

/-- And no more than fit in 52 bits. -/
theorem fit_eq (fuel : ℕ) (decimals : s.ten ≤ 0) (enough : -s.ten ≤ fuel) :
    ∃ n, fit fuel s = dropped n s ∧ s.ten + n ≤ 0 ∧
      (s.ten + n = 0 ∨ (dropped n s).mantissa < 1 <<< 52) ∧
      ∀ k < n, 1 <<< 52 ≤ (dropped k s).mantissa := by
  induction fuel generalizing s with
  | zero => exact ⟨0, rfl, by omega, .inl (by omega), by simp⟩
  | succ fuel ih =>
    rw [fit]
    split
    · rename_i stop
      exact ⟨0, rfl, by omega, stop.imp (by omega) id, by simp⟩
    · rename_i go
      have ten : s.dropDecimal.ten = s.ten + 1 := rfl
      obtain ⟨n, same, most, stop, more⟩ := ih (s := s.dropDecimal) (by omega) (by omega)
      refine ⟨n + 1, by rw [same, dropped_succ'], by omega, ?_, fun k small => ?_⟩
      · rw [dropped_succ']
        exact stop.imp (by omega) id
      · cases k with
        | zero =>
          rw [dropped_zero]
          omega
        | succ k =>
          rw [dropped_succ']
          exact more k (by omega)

theorem strip_spec (fuel : ℕ) (decimals : s.ten ≤ 0) (enough : -s.ten ≤ fuel) :
    ∃ n : ℕ, s.mantissa = (strip fuel s).mantissa * 10 ^ n ∧ (strip fuel s).ten = s.ten + n ∧
      (strip fuel s).ten ≤ 0 ∧ ((strip fuel s).ten = 0 ∨ (strip fuel s).mantissa % 10 ≠ 0) := by
  induction fuel generalizing s with
  | zero => exact ⟨0, by simp [strip], by simp [strip], by simp only [strip]; omega, .inl (by simp only [strip]; omega)⟩
  | succ fuel ih =>
    rw [strip]
    split
    · rename_i stop
      exact ⟨0, by simp, by simp, decimals, stop.imp (by omega) id⟩
    · rename_i go
      obtain ⟨n, digits, ten, most, stop⟩ :=
        ih (s := ⟨s.mantissa / 10, s.five, s.ten + 1⟩) (by simp only; omega) (by simp only; omega)
      refine ⟨n + 1, ?_, by rw [ten]; push_cast; ring, most, stop⟩
      rw [pow_succ, ← Nat.mul_assoc, ← digits]
      simp only
      omega

theorem dropped_add (k n : ℕ) (s : Scaling) : dropped (k + n) s = dropped n (dropped k s) := by
  rw [dropped, Nat.add_comm, Function.iterate_add_apply]
  rfl

end Drop

section Kept
variable {s : Scaling} {n : ℕ}

/-- What is kept of a number with decimals. -/
def kept (s : Scaling) : Scaling := strip 30 (fit 30 (shorten 1100 s))

/-- So many decimals are dropped as there are too many, or as do not fit in 52 bits. -/
structure Shortened (s : Scaling) (n : ℕ) : Prop where
  decimals : -28 ≤ s.ten + n ∧ s.ten + n ≤ 0
  stops : s.ten + n = 0 ∨ (dropped n s).mantissa < 1 <<< 52
  needs : ∀ k, n = k + 1 → s.ten + n = -28 ∨ 1 <<< 52 ≤ (dropped k s).mantissa

/-- Apart from final zeros a number is kept as it is after that, or as zero if less than ten is left too
far behind the point. -/
theorem kept_cases (decimals : s.ten ≤ 0) (most : -1100 ≤ s.ten) :
    (s.kept.ten ≤ 0 ∧ (s.kept.ten = 0 ∨ s.kept.mantissa % 10 ≠ 0)) ∧
    ((∃ n t : ℕ, Shortened s n ∧ (dropped n s).mantissa = s.kept.mantissa * 10 ^ t ∧
        s.kept.ten = s.ten + n + t) ∨
      (s.kept.mantissa = 0 ∧ s.kept.ten = 0) ∧ ∃ n, (dropped n s).mantissa < 10 ∧ s.ten + n < -28) := by
  obtain ⟨n, shortened, least, below, long⟩ | ⟨shortened, nothing⟩ :=
    shorten_eq 1100 decimals (by omega)
  · obtain ⟨k, fitted, below', stop, more⟩ := fit_eq (s := dropped n s) 30
      (by rw [dropped_ten]; exact below) (by rw [dropped_ten]; omega)
    rw [dropped_ten] at below' stop
    obtain ⟨t, digits, ten, rest⟩ := strip_spec (s := dropped k (dropped n s)) 30
      (by rw [dropped_ten, dropped_ten]; exact below') (by rw [dropped_ten, dropped_ten]; omega)
    have same : s.kept = strip 30 (dropped k (dropped n s)) := by
      rw [kept, shortened, fitted]
    rw [same]
    refine ⟨rest, .inl ⟨n + k, t, ⟨by push_cast; omega, ?_, fun i last => ?_⟩, ?_, ?_⟩⟩
    · rw [dropped_add]
      exact stop.imp (by push_cast; omega) id
    · cases k with
      | zero => exact .inl (by push_cast; omega)
      | succ k =>
        obtain rfl : i = n + k := by omega
        rw [dropped_add]
        exact .inr (more k (by omega))
    · rw [dropped_add]
      exact digits
    · rw [ten, dropped_ten, dropped_ten]
      push_cast
      ring
  · have same : s.kept = ⟨0, s.five, 0⟩ := by
      rw [kept, shortened, fit, if_pos (.inl (le_refl _)), strip, if_pos (.inl (le_refl _))]
    rw [same]
    exact ⟨⟨le_refl _, .inl rfl⟩, .inr ⟨⟨rfl, rfl⟩, nothing⟩⟩

/-- What is kept is close to the number, unless that lies behind the last decimal. -/
theorem kept_near (whole : s.five = 0) (decimals : s.ten ≤ 0) (most : -1100 ≤ s.ten) :
    |(s.kept.mantissa * 10 ^ s.kept.ten - s.toRat : ℚ)| ≤ s.toRat / 2 ^ 49 + 1 / 10 ^ 28 := by
  have positive : 0 ≤ s.toRat := by
    unfold toRat
    positivity
  obtain ⟨-, ⟨n, t, shortened, same, ten⟩ | ⟨⟨zero_, -⟩, n, small, far⟩⟩ := kept_cases decimals most
  · have hgrid : (0 : ℚ) < 10 ^ (s.ten + n) := by positivity
    have value : (s.kept.mantissa * 10 ^ s.kept.ten : ℚ) = (dropped n s).mantissa * 10 ^ (s.ten + n) := by
      rw [same, ten, zpow_add₀ (by norm_num), zpow_natCast]
      push_cast
      ring
    have grid : |((dropped n s).mantissa * 10 ^ (s.ten + n) - s.toRat : ℚ)| ≤ 5 / 9 * 10 ^ (s.ten + n) := by
      obtain ⟨up, down⟩ := dropped_near n whole
      have split : ((dropped n s).mantissa * 10 ^ (s.ten + n) - s.toRat : ℚ) =
          ((dropped n s).mantissa - s.toRat / 10 ^ (s.ten + n)) * 10 ^ (s.ten + n) := by
        field_simp
      rw [split, abs_mul, abs_of_pos hgrid]
      gcongr
      rw [abs_le]
      constructor <;> linarith
    rw [value]
    cases n with
    | zero =>
      have exact_ : ((dropped 0 s).mantissa * 10 ^ (s.ten + (0 : ℕ)) : ℚ) = s.toRat := by
        rw [dropped_zero, toRat, whole, zpow_zero, mul_one, Nat.cast_zero, add_zero]
      rw [exact_, sub_self, abs_zero]
      positivity
    | succ k =>
      refine grid.trans ?_
      rcases shortened.needs k rfl with last | needs
      · rw [last]
        have : 0 ≤ s.toRat / 2 ^ 49 := by positivity
        norm_num at this ⊢
        linarith
      · have before := (dropped_near k whole).1
        have next : (10 : ℚ) ^ (s.ten + (k + 1 : ℕ)) = 10 * 10 ^ (s.ten + k) := by
          rw [Nat.cast_succ, ← add_assoc, zpow_add_one₀ (by norm_num), mul_comm]
        have least : (2 ^ 52 : ℚ) ≤ (dropped k s).mantissa := by exact_mod_cast needs
        have room : (2 ^ 52 - 1 : ℚ) * 10 ^ (s.ten + k) ≤ s.toRat := by
          rw [← le_div_iff₀ (by positivity)]
          linarith
        rw [next]
        linarith
  · rw [zero_, Nat.cast_zero, zero_mul, zero_sub, abs_neg, abs_of_nonneg positive]
    have := vanished_lt whole small far
    have : 0 ≤ s.toRat / 2 ^ 49 := by positivity
    linarith

/-- A whole number is kept as it is. -/
theorem kept_whole (whole : s.ten = 0) : s.kept = s := by
  have shortened : shorten 1100 s = s := by
    rw [shorten, if_pos (by omega)]
  have fitted : fit 30 s = s := by
    rw [fit, if_pos (.inl whole.ge)]
  rw [kept, shortened, fitted, strip, if_pos (.inl whole.ge)]

end Kept

end Clickstream.Decimal.Scaling
