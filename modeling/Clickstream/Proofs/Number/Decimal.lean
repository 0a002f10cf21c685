import Clickstream.Proofs.Number.Nearest
import Clickstream.Proofs.Number.Scaling

/-! Which binary64 numbers are kept as decimals: the finite ones below 2^96 in size. -/
namespace Clickstream.Decimal
open Binary64

theorem make?_eq_some {negative : Bool} {mantissa scale : ℕ} {d : Decimal} :
    make? negative mantissa scale = some d ↔
      d.negative = negative ∧ d.mantissa = mantissa ∧ d.scale = scale := by
  unfold make?
  split
  · rename_i fits
    constructor
    · rintro ⟨⟩
      exact ⟨rfl, rfl, rfl⟩
    · rintro ⟨rfl, rfl, rfl⟩
      rfl
  · rename_i misfit
    constructor
    · rintro ⟨⟩
    · rintro ⟨-, rfl, rfl⟩
      exact absurd ⟨d.mantissa_lt, d.scale_le⟩ misfit

/-- What is kept of a scaling makes a decimal. -/
theorem Scaling.kept_made {s : Scaling} (room : s.mantissa < 1 <<< 96) (decimals : s.ten ≤ 0)
    (most : -1100 ≤ s.ten) (negative : Bool) :
    ∃ d, make? negative s.kept.mantissa (-s.kept.ten).toNat = some d := by
  have fits : s.kept.mantissa < 1 <<< 96 ∧ (-s.kept.ten).toNat ≤ 28 := by
    obtain ⟨-, ⟨n, t, shortened, digits, ten⟩ | ⟨⟨nothing, whole⟩, -⟩⟩ := Scaling.kept_cases decimals most
    · have := Scaling.dropped_mantissa_le n s
      have : s.kept.mantissa ≤ s.kept.mantissa * 10 ^ t := Nat.le_mul_of_pos_right _ (by positivity)
      have := shortened.decimals
      omega
    · rw [nothing, whole]
      decide
  exact ⟨⟨negative, s.kept.mantissa, (-s.kept.ten).toNat, fits.1, fits.2⟩,
    make?_eq_some.mpr ⟨rfl, rfl, rfl⟩⟩

section Range
variable {negative : Bool} {mantissa whole : ℕ} {exponent : ℤ}

/-- A number without a fraction is kept as it is, if there is room for it. -/
theorem ofBinary64?_whole (canonical : CanonicalParts mantissa exponent)
    (exact_ : (mantissa * 2 ^ exponent : ℚ) = whole) :
    ofBinary64? (.finite negative mantissa exponent canonical) = make? (negative && whole != 0) whole 0 := by
  obtain ⟨width, least, greatest, full⟩ := id canonical
  have kept_ : (do
      let settled ← Scaling.settle 1100 ⟨whole, 0, 0⟩
      let kept := Scaling.strip 30 (Scaling.fit 30 (Scaling.shorten 1100 settled))
      make? (negative && kept.mantissa != 0) kept.mantissa (-kept.ten).toNat) =
      make? (negative && whole != 0) whole 0 := by
    rw [Scaling.settle_done (le_refl _), Option.bind_eq_bind, Option.bind_some]
    change make? (negative && (Scaling.kept _).mantissa != 0) (Scaling.kept _).mantissa
      (-(Scaling.kept _).ten).toNat = _
    rw [Scaling.kept_whole rfl]
    rfl
  by_cases zero_ : mantissa = 0
  · obtain rfl : whole = 0 := by
      rw [zero_, Nat.cast_zero, zero_mul] at exact_
      exact_mod_cast exact_.symm
    simp [ofBinary64?, zero_, make?, zero]
  obtain ⟨k, rfl⟩ | ⟨k, rfl⟩ : (∃ k : ℕ, exponent = k) ∨ ∃ k : ℕ, exponent = -k := by
    rcases le_total 0 exponent with up | down
    · exact .inl (Int.eq_ofNat_of_zero_le up)
    · exact .inr ⟨exponent.natAbs, by omega⟩
  · have parts : mantissa * 2 ^ k = whole := by
      rw [zpow_natCast] at exact_
      exact_mod_cast exact_
    simp only [ofBinary64?]
    rw [if_neg zero_, Scaling.raise_done (by simp), Scaling.lower_up (by omega) (by omega), parts]
    split
    · exact kept_
    · rename_i exceeds
      rw [make?, dif_neg (fun fits => exceeds fits.1)]
      rfl
  · have parts : mantissa = whole * 2 ^ k := by
      rw [zpow_neg, zpow_natCast, ← div_eq_mul_inv, div_eq_iff (by positivity)] at exact_
      exact_mod_cast exact_
    simp only [ofBinary64?]
    rw [if_neg zero_, Int.neg_neg, parts, Scaling.raise_whole whole (by omega),
      Scaling.lower_done (le_refl _)]
    exact kept_

/-- Of a number with a fraction the digits are found first, and dropped where there are too many. -/
theorem ofBinary64?_fraction (negative : Bool) (canonical : CanonicalParts mantissa exponent)
    (nonzero : mantissa ≠ 0) (fraction : exponent < 0) :
    ∃ r : Scaling, (r.five = 0 ∧ -1100 ≤ r.ten ∧ r.ten ≤ 0) ∧ r.mantissa < 1 <<< 96 ∧
      (mantissa * 2 ^ exponent * (1 - 1 / 2 ^ 83) ≤ r.toRat ∧ r.toRat ≤ mantissa * 2 ^ exponent) ∧
      ofBinary64? (.finite negative mantissa exponent canonical) =
        make? (negative && (Scaling.kept r).mantissa != 0) (Scaling.kept r).mantissa
          (-(Scaling.kept r).ten).toNat := by
  obtain ⟨width, least, -, -⟩ := id canonical
  have raised := Scaling.raise_raised (s := ⟨mantissa, -exponent, exponent⟩) 1100
    (by simp only; omega) (by simp only; omega) (by simp only; omega)
  have ten : exponent ≤ _ ∧ _ ≤ exponent + -exponent := raised.ten
  refine ⟨_, ⟨raised.five, by omega, by omega⟩, raised.room, ⟨?_, ?_⟩, ?_⟩
  · rw [← Scaling.toRat_binary]
    exact raised.near (by simp only; omega)
  · rw [← Scaling.toRat_binary]
    exact raised.upper
  simp only [ofBinary64?]
  rw [if_neg nonzero, Scaling.lower_done raised.five.ge, Option.bind_eq_bind, Option.bind_some,
    Scaling.settle_done (by omega)]
  rfl

/-- A number without a decimal is no finite number, or has no room in 96 bits. -/
theorem ofBinary64?_eq_none {x : Binary64} :
    ofBinary64? x = none ↔ x.isFinite = false ∨ 2 ^ 96 ≤ |x.toRat| := by
  match x with
  | .nan => simp [ofBinary64?, isFinite]
  | .infinite _ => simp [ofBinary64?, isFinite]
  | .finite negative mantissa exponent canonical =>
    simp only [isFinite, Bool.true_eq_false, false_or, abs_toRat]
    obtain whole | fraction := le_or_gt 0 exponent
    · obtain ⟨k, rfl⟩ := Int.eq_ofNat_of_zero_le whole
      have exact_ : (mantissa * 2 ^ (k : ℤ) : ℚ) = (mantissa * 2 ^ k : ℕ) := by
        push_cast
        rw [zpow_natCast]
      rw [ofBinary64?_whole canonical exact_, make?, zpow_natCast]
      have bound : (2 ^ 96 : ℚ) ≤ mantissa * 2 ^ k ↔ 1 <<< 96 ≤ mantissa * 2 ^ k := by
        rw [Nat.shiftLeft_eq, Nat.one_mul]
        exact_mod_cast Iff.rfl
      rw [bound]
      split
      · rename_i fits
        simpa using fits.1
      · rename_i exceeds
        simpa using exceeds
    · have small : (mantissa * 2 ^ exponent : ℚ) < 2 ^ 96 := by
        calc (mantissa * 2 ^ exponent : ℚ) ≤ mantissa * 1 := by
              gcongr
              exact zpow_le_one_of_nonpos₀ (by norm_num) fraction.le
          _ < 2 ^ 96 := by
            have : ((mantissa : ℕ) : ℚ) < (1 <<< 53 : ℕ) := Nat.cast_lt.mpr canonical.1
            rw [cast_shift] at this
            rw [mul_one]
            exact this.trans (by norm_num)
      simp only [small.not_ge, iff_false]
      by_cases zero_ : mantissa = 0
      · simp [ofBinary64?, zero_]
      · obtain ⟨r, ⟨-, ten⟩, room, -, read⟩ :=
          ofBinary64?_fraction negative canonical zero_ fraction
        obtain ⟨d, made⟩ := Scaling.kept_made room ten.2 ten.1 (negative && r.kept.mantissa != 0)
        rw [read, made]
        exact Option.some_ne_none d

/-- A decimal as a rational. -/
def toRat (d : Decimal) : ℚ := (if d.negative then -1 else 1) * (d.mantissa / 10 ^ d.scale)

private theorem abs_toRat_sub {d : Decimal} (canonical : CanonicalParts mantissa exponent)
    (sign : d.negative = (negative && d.mantissa != 0)) :
    |d.toRat - (Binary64.finite negative mantissa exponent canonical).toRat| =
      |(d.mantissa / 10 ^ d.scale - mantissa * 2 ^ exponent : ℚ)| := by
  rw [toRat, Binary64.toRat, sign]
  cases negative with
  | false => simp
  | true =>
    rcases eq_or_ne d.mantissa 0 with zero_ | nonzero
    · simp [zero_]
    · rw [bne_iff_ne.mpr nonzero, Bool.and_true, if_pos rfl, ← abs_neg]
      congr 1
      ring

/-- A number is kept closely, except for what lies behind the 28th decimal. -/
theorem ofBinary64?_near {x : Binary64} {d : Decimal} (kept : ofBinary64? x = some d) :
    |d.toRat - x.toRat| ≤ |x.toRat| / 2 ^ 48 + 1 / 10 ^ 28 := by
  match x with
  | .nan => cases kept
  | .infinite _ => cases kept
  | .finite negative mantissa exponent canonical =>
    rw [abs_toRat]
    by_cases whole_ : ∃ whole : ℕ, (mantissa * 2 ^ exponent : ℚ) = whole
    · obtain ⟨whole, exact_⟩ := whole_
      rw [ofBinary64?_whole canonical exact_, make?_eq_some] at kept
      obtain ⟨sign, digits, scale⟩ := kept
      rw [abs_toRat_sub canonical (digits ▸ sign), digits, scale, exact_]
      simp only [pow_zero, div_one, sub_self, abs_zero]
      positivity
    · have fraction : exponent < 0 := by
        by_contra up
        obtain ⟨k, rfl⟩ := Int.eq_ofNat_of_zero_le (not_lt.mp up)
        exact whole_ ⟨mantissa * 2 ^ k, by push_cast; rw [zpow_natCast]⟩
      have nonzero : mantissa ≠ 0 := by
        rintro rfl
        exact whole_ ⟨0, by simp⟩
      obtain ⟨r, ⟨five, ten⟩, -, scaled_, read⟩ :=
        ofBinary64?_fraction negative canonical nonzero fraction
      rw [kept] at read
      obtain ⟨sign, digits, scale⟩ := make?_eq_some.mp read.symm
      have value : (d.mantissa / 10 ^ d.scale : ℚ) = r.kept.mantissa * 10 ^ r.kept.ten := by
        have := (Scaling.kept_cases ten.2 ten.1).1.1
        have behind : r.kept.ten = -(d.scale : ℤ) := by omega
        rw [digits, behind, zpow_neg, zpow_natCast, div_eq_mul_inv]
      have near := Scaling.kept_near five ten.2 ten.1
      rw [abs_toRat_sub canonical (digits ▸ sign), value]
      obtain ⟨below, above⟩ := abs_le.mp near
      rw [abs_le]
      constructor <;> linarith

end Range
end Clickstream.Decimal
