import Clickstream.Number.Decimal
import Clickstream.Proofs.Number.Arithmetic

/-! Decimals as binary64 numbers: one with few digits is made into the number nearest to it. -/
namespace Clickstream.Decimal
open Binary64

/-- A signed integer that is not zero is rounded with its sign. -/
theorem ofInt_signed {n : ℕ} (negative : Bool) (nonzero : n ≠ 0) :
    ofInt (if negative then -(n : ℤ) else n) = round negative n 1 := by
  have sign (i : ℤ) (size : i.natAbs = n) (below : decide (i < 0) = negative) :
      ofInt i = round negative n 1 := by
    rw [ofInt, size, below]
  cases negative
  · exact sign _ (by simp) (by simp)
  · exact sign _ (by simp) (by simpa using Nat.pos_of_ne_zero nonzero)

section Fraction
variable {d : Decimal}

private theorem near_of_roundings {error whole fraction unit a b c : ℚ} (herror : 0 ≤ error)
    (small : error ≤ 1 / 8) (hwhole : 0 ≤ whole) (hfraction : 0 ≤ fraction) (hunit : 0 < unit)
    (first : |a - fraction| ≤ fraction * error) (second : |b - (whole + a)| ≤ (whole + a) * error)
    (third : |c - b * unit| ≤ b * unit * error) :
    |c - (whole + fraction) * unit| ≤ 4 * ((whole + fraction) * unit) * error := by
  obtain ⟨q, hq⟩ : ∃ q, q = whole + fraction := ⟨_, rfl⟩
  have positive : 0 ≤ q := by linarith
  have part : fraction * error ≤ q * error := by
    gcongr
    linarith
  have sum : whole + a ≤ q * (1 + error) := by linarith [(abs_le.mp first).2]
  have sum' : |b - q| ≤ q * (2 + error) * error := by
    have split : b - q = (b - (whole + a)) + (a - fraction) := by
      rw [hq]
      ring
    calc |b - q| ≤ |b - (whole + a)| + |a - fraction| := by
          rw [split]
          exact abs_add_le _ _
      _ ≤ (whole + a) * error + fraction * error := add_le_add second first
      _ ≤ q * (1 + error) * error + q * error := by gcongr
      _ = q * (2 + error) * error := by ring
  have most : b ≤ q * (1 + (2 + error) * error) := by linarith [(abs_le.mp sum').2]
  have split : c - q * unit = (c - b * unit) + (b - q) * unit := by ring
  rw [← hq]
  calc |c - q * unit| ≤ |c - b * unit| + |b - q| * unit := by
        rw [split]
        refine (abs_add_le _ _).trans_eq ?_
        rw [abs_mul, abs_of_pos hunit]
    _ ≤ q * (1 + (2 + error) * error) * unit * error + q * (2 + error) * error * unit := by
        gcongr
        exact third.trans (by gcongr)
    _ = (3 + (3 + error) * error) * (q * unit) * error := by ring
    _ ≤ 4 * (q * unit) * error := by
        gcongr
        nlinarith

private theorem tens : ∀ n < 23, power (ofNat 10) n = ofNat (10 ^ n) ∧ 5 ^ n < 1 <<< 53 := by
  decide +kernel

/-- Powers of ten up to the 22nd are binary64 numbers. -/
theorem ofNat_ten {n : ℕ} (few : n ≤ 22) :
    ∃ m e h, 0 < m ∧ ofNat (10 ^ n) = .finite false m e h ∧ (m * 2 ^ e : ℚ) = 10 ^ n := by
  have parts : 5 ^ n * 2 ^ n = 10 ^ n := by rw [← Nat.mul_pow]
  obtain ⟨m, e, h, same, value⟩ := ofNat_exact (tens n (by omega)).2 (by omega : n ≤ 900)
  rw [parts] at same value
  refine ⟨m, e, h, ?_, same, by rw [value]; push_cast; rfl⟩
  refine Nat.pos_of_ne_zero fun zero_ => ?_
  rw [zero_, Nat.cast_zero, zero_mul, eq_comm] at value
  exact absurd value (by positivity)

/-- Numbers below 2^53 are binary64 numbers. -/
theorem ofNat_short {n : ℕ} (short : n < 1 <<< 53) :
    ∃ m e h, ofNat n = .finite false m e h ∧ (m * 2 ^ e : ℚ) = n := by
  simpa using ofNat_exact short (Nat.zero_le 900)

private theorem neg_if (negative : Bool) (num den : ℕ) :
    (if negative then (round false num den).neg else round false num den) = round negative num den := by
  cases negative with
  | false => rfl
  | true => exact neg_round false num den

/-- Rounding in a range that all amounts are in. -/
theorem round_amount {num den : ℕ} (hden : 0 < den) (least : (1 / 10 ^ 23 : ℚ) ≤ num / den)
    (most : (num / den : ℚ) ≤ 10 ^ 60) (negative : Bool) :
    ∃ m e h, round negative num den = .finite negative m e h ∧ 1 <<< 52 ≤ m ∧
      |(m * 2 ^ e - num / den : ℚ)| ≤ 2 ^ e / 2 ∧
      |(m * 2 ^ e - num / den : ℚ)| ≤ num / den * (1 / 2 ^ 53) := by
  have small : (2 : ℚ) ^ (-1022 : ℤ) ≤ 2 ^ (-100 : ℤ) := zpow_le_zpow_right₀ (by norm_num) (by norm_num)
  have large : (2 : ℚ) ^ (200 : ℤ) ≤ 2 ^ (1023 : ℤ) := zpow_le_zpow_right₀ (by norm_num) (by norm_num)
  obtain ⟨m, e, h, same, full, half, near⟩ := round_nearest hden
    (small.trans (le_trans (by norm_num) least)) (lt_of_lt_of_le (most.trans_lt (by norm_num)) large) negative
  exact ⟨m, e, h, same, full, half, by rwa [mul_one_div]⟩

variable {mw mf mt digits : ℕ} {ew ef et : ℤ} {r unit : ℚ}

private theorem roundHalfAway_digits (hw : CanonicalParts mw ew) (hf : CanonicalParts mf ef)
    (ht : CanonicalParts mt et) {whole : ℕ} (vw : (mw * 2 ^ ew : ℚ) = whole) (vt : (mt * 2 ^ et : ℚ) = unit)
    (units : 1 ≤ unit ∧ unit ≤ 10 ^ 22) (rest : 1 / 10 ^ 22 ≤ r ∧ r < 1)
    (parts : (whole + r) * unit = digits) (short : digits < 10 ^ 15)
    (near : |(mf * 2 ^ ef - r : ℚ)| ≤ r * (1 / 2 ^ 53)) :
    (mul (add (.finite false mw ew hw) (.finite false mf ef hf)) (.finite false mt et ht)).roundHalfAway =
      ofNat digits := by
  have short' : (digits : ℚ) < 10 ^ 15 := by exact_mod_cast short
  have whole_pos : (0 : ℚ) ≤ whole := Nat.cast_nonneg _
  have least : (0 : ℚ) < 1 / 10 ^ 22 := by norm_num
  have total : (whole + r : ℚ) ≤ 10 ^ 15 := by nlinarith
  have error {x : ℚ} (positive : 0 ≤ x) : x * (1 / 2 ^ 53) ≤ x / 8 := by
    rw [div_eq_mul_one_div x 8]
    gcongr
    norm_num
  obtain ⟨below, above⟩ := abs_le.mp (near.trans (error (by linarith)))
  obtain ⟨num, den, hden, vsum, sum⟩ := add_eq_round hw hf
  rw [vw] at vsum
  obtain ⟨ms, es, hs, rounded, -, -, near'⟩ := round_amount hden
    (by rw [vsum]; linarith) (by rw [vsum]; linarith) false
  rw [vsum] at near'
  obtain ⟨below', above'⟩ := abs_le.mp (near'.trans (error (by linarith)))
  have least' : (1 / 10 ^ 23 : ℚ) ≤ ms * 2 ^ es := by linarith
  have most' : (ms * 2 ^ es : ℚ) ≤ 10 ^ 16 := by linarith
  obtain ⟨num', den', hden', vproduct, product⟩ := mul_eq_round false false hs ht
  rw [vt] at vproduct
  obtain ⟨mp, ep, hp, rounded', -, -, near''⟩ := round_amount hden'
    (by rw [vproduct]; nlinarith) (by rw [vproduct]; nlinarith) false
  rw [vproduct] at near''
  have close := near_of_roundings (by norm_num) (by norm_num) whole_pos (by linarith) (by linarith)
    near near' near''
  rw [parts] at close
  have within : |(mp * 2 ^ ep - digits : ℚ)| < 1 / 2 := by
    calc |(mp * 2 ^ ep - digits : ℚ)| ≤ 4 * digits * (1 / 2 ^ 53) := close
      _ ≤ 4 * 10 ^ 15 * (1 / 2 ^ 53) := by gcongr
      _ < 1 / 2 := by norm_num
  rw [sum, rounded, product, bne_self_eq_false, rounded', roundHalfAway_eq within]
  rfl

/-- A decimal with few digits is converted to the number nearest to it. -/
theorem toBinary64_eq_round (decimals : 0 < d.scale) (few : d.scale ≤ 22) (short : d.mantissa < 10 ^ 15) :
    d.toBinary64 = round d.negative d.mantissa (10 ^ d.scale) := by
  have hunit : 0 < 10 ^ d.scale := by positivity
  obtain ⟨mt, et, ht, hmt, ten, vt⟩ := ofNat_ten few
  have fifteen : 10 ^ 15 < 1 <<< 53 := by decide
  obtain ⟨mw, ew, hw, whole, vw⟩ := ofNat_short (n := d.mantissa / 10 ^ d.scale)
    ((Nat.div_le_self _ _).trans_lt (short.trans fifteen))
  obtain ⟨mr, er, hr, rest, vr⟩ := ofNat_short (n := d.mantissa % 10 ^ d.scale)
    ((Nat.mod_le _ _).trans_lt (short.trans fifteen))
  have divided : div (ofNat (d.mantissa % 10 ^ d.scale)) (ofNat (10 ^ d.scale)) =
      round false (d.mantissa % 10 ^ d.scale) (10 ^ d.scale) := by
    rw [rest, ten]
    exact div_eq_round hmt hunit (by rw [vr, vt]; push_cast; rfl)
  unfold toBinary64
  simp only
  rw [if_neg decimals.ne', (tens d.scale (by omega)).1, divided]
  have unit_pos : (0 : ℚ) < (10 ^ d.scale : ℕ) := by exact_mod_cast hunit
  have parts : ((d.mantissa / 10 ^ d.scale : ℕ) : ℚ) + (d.mantissa % 10 ^ d.scale : ℕ) / (10 ^ d.scale : ℕ) =
      d.mantissa / (10 ^ d.scale : ℕ) := by
    rw [eq_div_iff unit_pos.ne', add_mul, div_mul_cancel₀ _ unit_pos.ne', mul_comm]
    exact_mod_cast Nat.div_add_mod d.mantissa (10 ^ d.scale)
  rcases Nat.eq_zero_or_pos (d.mantissa % 10 ^ d.scale) with nothing | something
  · rw [nothing, Nat.cast_zero, zero_div, add_zero] at parts
    have zero_ : (round false 0 (10 ^ d.scale)).isZero = true := rfl
    rw [nothing, if_pos zero_, ofNat, neg_if]
    exact round_congr one_pos hunit (by rw [Nat.cast_one, div_one, parts]) _
  · have tens_ : ((10 ^ d.scale : ℕ) : ℚ) ≤ 10 ^ 22 := by
      push_cast
      exact pow_le_pow_right₀ (by norm_num) few
    have some_ : (1 : ℚ) ≤ (d.mantissa % 10 ^ d.scale : ℕ) := by exact_mod_cast something
    have least : (1 / 10 ^ 22 : ℚ) ≤ (d.mantissa % 10 ^ d.scale : ℕ) / (10 ^ d.scale : ℕ) := by gcongr
    have most : ((d.mantissa % 10 ^ d.scale : ℕ) / (10 ^ d.scale : ℕ) : ℚ) < 1 := by
      rw [div_lt_one unit_pos]
      exact Nat.cast_lt.mpr (Nat.mod_lt _ hunit)
    have wide : (1 / 10 ^ 23 : ℚ) ≤ (d.mantissa % 10 ^ d.scale : ℕ) / (10 ^ d.scale : ℕ) :=
      le_trans (by norm_num) least
    obtain ⟨mf, ef, hf, fraction, full, -, first⟩ :=
      round_amount hunit wide (most.le.trans (by norm_num)) false
    have nonzero : (Binary64.finite false mf ef hf).isZero = false := by
      rw [isZero, beq_eq_false_iff_ne]
      omega
    have digits := roundHalfAway_digits hw hf ht vw (vt.trans (by push_cast; rfl)) ⟨by exact_mod_cast hunit, tens_⟩
      ⟨least, most⟩ (by rw [parts, div_mul_cancel₀ _ unit_pos.ne']) short first
    obtain ⟨md, ed, hd, same, vd⟩ := ofNat_short (short.trans fifteen)
    have back : div (ofNat d.mantissa) (.finite false mt et ht) = round false d.mantissa (10 ^ d.scale) := by
      rw [same]
      exact div_eq_round hmt hunit (by rw [vd, vt]; push_cast; rfl)
    rw [fraction, if_neg (by rw [nonzero]; exact Bool.false_ne_true), whole, ten, digits, back, neg_if]

end Fraction
end Clickstream.Decimal
