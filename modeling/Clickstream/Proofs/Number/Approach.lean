import Clickstream.Proofs.Number.Scaling

/-! Binary64 numbers that stand for decimals with few digits: which of their digits are kept. -/
namespace Clickstream.Decimal.Scaling
open Binary64 (eq_of_cast_near)

variable {s r : Scaling}

/-- A number `digits / 10^places` is close to a binary64 number that has been scaled. -/
structure Approaches (r : Scaling) (value unit : ℚ) (digits places : ℕ) : Prop where
  whole : r.five = 0
  ten : -1100 ≤ r.ten ∧ r.ten ≤ 0
  scaled : value * (1 - 1 / 2 ^ 83) ≤ r.toRat ∧ r.toRat ≤ value
  normal : 2 ^ 52 * unit ≤ value ∧ value < 2 ^ 53 * unit
  near : |value - digits / 10 ^ places| ≤ unit / 2
  places : places ≤ 22
  digits : 0 < digits ∧ digits < 10 ^ 15

section Approaches
variable {value unit : ℚ} {digits places : ℕ} (a : Approaches r value unit digits places)
include a

private theorem Approaches.size :
    (0 < unit ∧ value ≤ 2 * (digits / 10 ^ places)) ∧ digits / 10 ^ places ≤ 2 * value := by
  obtain ⟨below, above⟩ := abs_le.mp a.near
  have := a.normal
  refine ⟨⟨?_, ?_⟩, ?_⟩ <;> linarith

private theorem Approaches.error :
    r.toRat - digits / 10 ^ places ≤ unit / 2 ∧ digits / 10 ^ places - r.toRat ≤ unit * (1 / 2 + 1 / 2 ^ 30) := by
  obtain ⟨below, above⟩ := abs_le.mp a.near
  have := a.normal
  have := a.scaled
  constructor <;> linarith

private theorem Approaches.not_vanished {n : ℕ} (small : (dropped n r).mantissa < 10) :
    -28 ≤ r.ten + n := by
  by_contra far
  obtain ⟨-, small'⟩ := a.size
  have least : (1 / 10 ^ 22 : ℚ) ≤ digits / 10 ^ places := by
    have some_ : (1 : ℚ) ≤ digits := by exact_mod_cast a.digits.1
    have := a.places
    gcongr
    norm_num
  have := vanished_lt a.whole small (by omega)
  have := a.scaled
  linarith

private theorem Approaches.shifted : value * 10 ^ places ≤ 2 * digits := by
  have back : (digits / 10 ^ places * 10 ^ places : ℚ) = digits := div_mul_cancel₀ _ (by positivity)
  calc value * 10 ^ places ≤ 2 * (digits / 10 ^ places) * 10 ^ places := by
        gcongr
        exact a.size.1.2
    _ = 2 * digits := by rw [mul_assoc, back]

private theorem Approaches.exact_of_whole {kept : ℕ} (ten : r.ten = -kept) (fewer : kept ≤ places) :
    r.mantissa * 10 ^ (places - kept) = digits := by
  obtain ⟨⟨hunit, -⟩, -⟩ := a.size
  obtain ⟨upper, lower⟩ := a.error
  have positive : (0 : ℚ) < 10 ^ places := by positivity
  have short : (digits : ℚ) < 10 ^ 15 := by exact_mod_cast a.digits.2
  have fine : unit * 10 ^ places < 1 := by
    have : 2 ^ 52 * unit * 10 ^ places ≤ value * 10 ^ places := by
      gcongr
      exact a.normal.1
    linarith [a.shifted]
  have scaled_ : r.toRat * 10 ^ places = (r.mantissa * 10 ^ (places - kept) : ℕ) := by
    rw [toRat, a.whole, ten, zpow_zero, mul_one, zpow_neg, zpow_natCast, ← pow_mul_pow_sub 10 fewer]
    push_cast
    field_simp
  have back : (digits / 10 ^ places * 10 ^ places : ℚ) = digits := div_mul_cancel₀ _ positive.ne'
  refine eq_of_cast_near ?_
  rw [← scaled_, ← back, ← sub_mul, abs_mul, abs_of_pos positive]
  have near : |r.toRat - digits / 10 ^ places| ≤ unit := by
    rw [abs_le]
    constructor <;> linarith
  calc |r.toRat - digits / 10 ^ places| * 10 ^ places ≤ unit * 10 ^ places := by gcongr
    _ < 1 := fine

private theorem Approaches.not_dropped {k kept : ℕ} (shortened : Shortened r (k + 1))
    (ten : r.ten + (k + 1 : ℕ) = -kept) : places ≤ kept := by
  by_contra fewer
  have short : (digits : ℚ) < 10 ^ 15 := by exact_mod_cast a.digits.2
  have needs := (shortened.needs k rfl).resolve_left (by have := a.places; omega)
  have before := (dropped_near k a.whole).1
  have ten' : r.ten + k = -(kept + 1 : ℕ) := by
    push_cast at ten ⊢
    omega
  rw [ten', zpow_neg, zpow_natCast, div_inv_eq_mul] at before
  have least : (2 ^ 52 : ℚ) ≤ (dropped k r).mantissa := by exact_mod_cast needs
  have most : r.toRat * 10 ^ (kept + 1) ≤ value * 10 ^ places := by
    have := a.scaled.2
    have : 0 ≤ value := by linarith [a.normal.1, a.size.1.1]
    gcongr
    · norm_num
    · omega
  linarith [a.shifted]

private theorem Approaches.exact_of_lt {n : ℕ} (shortened : Shortened r n) {kept : ℕ} (ten : r.ten + n = -kept)
    (fewer : kept < places) : (dropped n r).mantissa * 10 ^ places = digits * 10 ^ kept := by
  cases n with
  | zero =>
    have same := a.exact_of_whole (by simpa using ten) fewer.le
    rw [dropped_zero, ← pow_mul_pow_sub 10 fewer.le, ← same]
    ring
  | succ k => exact absurd (a.not_dropped shortened ten) (Nat.not_le_of_gt fewer)

private theorem Approaches.exact_of_le {n : ℕ} (shortened : Shortened r n) {kept : ℕ} (ten : r.ten + n = -kept)
    (enough : places ≤ kept) (fine : unit ≤ 1 / 2)
    (apart : value * 10 ^ kept < 2 ^ 52 → 9 * (unit * 10 ^ kept) ≤ 8) :
    (dropped n r).mantissa * 10 ^ places = digits * 10 ^ kept := by
  obtain ⟨upper, lower⟩ := a.error
  obtain ⟨up, down⟩ := dropped_near n a.whole
  rw [ten, zpow_neg, zpow_natCast, div_inv_eq_mul] at up down
  have narrow : 9 * (unit * 10 ^ kept) ≤ 8 := by
    rcases shortened.stops with whole | stops
    · obtain rfl : kept = 0 := by omega
      linarith
    · refine apart ?_
      have most : ((dropped n r).mantissa + 1 : ℚ) ≤ 2 ^ 52 := by exact_mod_cast stops
      have : value * (1 - 1 / 2 ^ 83) * 10 ^ kept ≤ r.toRat * 10 ^ kept := by
        gcongr
        exact a.scaled.1
      linarith
  have target : (digits / 10 ^ places * 10 ^ kept : ℚ) = (digits * 10 ^ (kept - places) : ℕ) := by
    rw [← pow_mul_pow_sub 10 enough]
    push_cast
    field_simp
  have upper' : r.toRat * 10 ^ kept - (digits * 10 ^ (kept - places) : ℕ) ≤ unit / 2 * 10 ^ kept := by
    rw [← target, ← sub_mul]
    gcongr
  have lower' : (digits * 10 ^ (kept - places) : ℕ) - r.toRat * 10 ^ kept ≤
      unit * (1 / 2 + 1 / 2 ^ 30) * 10 ^ kept := by
    rw [← target, ← sub_mul]
    gcongr
  have same : (dropped n r).mantissa = digits * 10 ^ (kept - places) := by
    refine eq_of_cast_near (abs_lt.mpr ⟨?_, ?_⟩)
    · linarith
    · linarith
  rw [same, ← pow_mul_pow_sub 10 enough]
  ring

/-- What is kept of it is the number it approaches. -/
theorem Approaches.kept (fine : unit ≤ 1 / 2)
    (apart : ∀ k ≤ 28, value * 10 ^ k < 2 ^ 52 → 9 * (unit * 10 ^ k) ≤ 8) :
    r.kept.mantissa * 10 ^ places = digits * 10 ^ (-r.kept.ten).toNat := by
  obtain ⟨⟨down, -⟩, ⟨n, t, shortened, same, ten⟩ | ⟨-, n, small, far⟩⟩ := kept_cases a.ten.2 a.ten.1
  · obtain ⟨least, most⟩ := shortened.decimals
    obtain ⟨kept, hkept⟩ : ∃ kept : ℕ, r.ten + n = -kept := ⟨(-(r.ten + n)).toNat, by omega⟩
    have exact_ : (dropped n r).mantissa * 10 ^ places = digits * 10 ^ kept := by
      rcases lt_or_ge kept places with fewer | enough
      · exact a.exact_of_lt shortened hkept fewer
      · exact a.exact_of_le shortened hkept enough fine (apart kept (by omega))
    have left : kept = (-r.kept.ten).toNat + t := by omega
    rw [same, left, pow_add, ← Nat.mul_assoc, Nat.mul_right_comm] at exact_
    exact Nat.eq_of_mul_eq_mul_right (by positivity) exact_
  · have := a.not_vanished small
    omega

end Approaches

end Clickstream.Decimal.Scaling
