import Clickstream.Proofs.Number.Numeral
import Clickstream.Proofs.Outcome
import Clickstream.Proofs.Text.Blank
import Clickstream.Proofs.Text.Front
import Clickstream.Proofs.Time.Calendar
import Clickstream.Time.Reader

/-! Instants are read as the instants they were written for, where their leap seconds end minutes. -/
namespace Clickstream

namespace Date

/-- Numbers are filled up to their width with zeros, which do not count. -/
theorem padded_spec (width n : Nat) : (∀ c ∈ padded width n, c.isDigit = true) ∧
    width ≤ (padded width n).length ∧ padded width n ≠ [] ∧ digitsValue (padded width n) = n := by
  unfold padded
  simp only
  refine ⟨fun c there => ?_, ?_, ?_, ?_⟩
  · rcases List.mem_append.mp there with there | there
    · rw [List.eq_of_mem_replicate there]
      rfl
    · exact Nat.isDigit_of_mem_toDigits (by decide) (by decide) there
  · simp only [List.length_append, List.length_replicate]
    omega
  · simp [Nat.toDigits_ne_nil]
  · rw [digitsValue_zeros, digitsValue_toDigits]

/-- A number that is short enough is not longer than its width. -/
theorem padded_length {width n : Nat} (positive : 0 < width) (small : n < 10 ^ width) :
    (padded width n).length = width := by
  have short := (Nat.length_toDigits_le_iff (b := 10) (k := width) (n := n) (by decide) positive).mpr small
  simp only [padded, List.length_append, List.length_replicate]
  omega

end Date

namespace Instant.Reading
variable {ds rest : List Char}

theorem blanks_run {c : Char} (solid : Text.isBlank c = false) (s : List Char) :
    blanks (c :: s) = .ok ((), c :: s) :=
  congrArg (fun s => Except.ok ((), s)) (List.dropWhile_cons_of_neg (by simp [solid]))

theorem mark_run (c : Char) (s : List Char) : mark c (c :: s) = .ok ((), s) := by
  rw [mark, bind_of_ok (get_run _)]
  simp only [↓reduceIte]
  rfl

/-- What stands after digits that could go on. -/
def Stops (rest : List Char) : Prop := ∀ c, rest.head? = some c → c.isDigit = false

/-- Digits are read up to the width, or up to what follows them. -/
theorem digits_run {width : Option Nat} (all : ∀ c ∈ ds, c.isDigit = true) (nonempty : ds ≠ [])
    (stops : (∃ w, width = some w ∧ ds.length = w) ∨ (∀ w, width = some w → ds.length ≤ w) ∧ Stops rest)
    (small : digitsValue ds < 1 <<< 63) : digits width (ds ++ rest) = .ok (ds, rest) := by
  have found : ((width.map (ds ++ rest).take).getD (ds ++ rest)).takeWhile Char.isDigit = ds := by
    rcases stops with ⟨w, rfl, full⟩ | ⟨fits, stops⟩
    · rw [Option.map_some, Option.getD_some, ← full, List.take_left]
      exact List.takeWhile_eq_self_iff.mpr all
    · cases width with
      | none => exact Text.takeWhile_front stops all
      | some w =>
        rw [Option.map_some, Option.getD_some, List.take_append, List.take_of_length_le (fits w rfl)]
        refine Text.takeWhile_front (fun c there => stops c ?_) all
        rw [List.head?_take] at there
        split at there
        · cases there
        · exact there
  obtain ⟨d, ds, rfl⟩ := List.exists_cons_of_ne_nil nonempty
  rw [digits, bind_of_ok (get_run _)]
  simp only [List.cons_append] at found ⊢
  simp only [found, List.isEmpty_cons, Bool.false_eq_true, ↓reduceIte, Nat.not_le.mpr small]
  rw [bind_of_ok (set_run _ _), ← List.cons_append, List.drop_left]
  rfl

section Padded
variable {width low high n : Nat}

theorem blanks_padded (width n : Nat) (rest : List Char) :
    blanks (Date.padded width n ++ rest) = .ok ((), Date.padded width n ++ rest) := by
  obtain ⟨digits, -, nonempty, -⟩ := Date.padded_spec width n
  obtain ⟨d, ds, same⟩ := List.exists_cons_of_ne_nil nonempty
  rw [same] at digits ⊢
  exact blanks_run (Text.isBlank_of_isDigit (digits d (by simp))) _

/-- A number in range is read from its padded digits, whatever follows them. -/
theorem number_run (positive : 0 < width) (short : n < 10 ^ width) (least : low ≤ n) (most : n ≤ high)
    (small : high < 1 <<< 63) (rest : List Char) :
    number width low high (Date.padded width n ++ rest) = .ok (n, rest) := by
  obtain ⟨all, -, nonempty, value⟩ := Date.padded_spec width n
  have read : digits (some width) (Date.padded width n ++ rest) = .ok (Date.padded width n, rest) :=
    digits_run all nonempty (.inl ⟨width, rfl, Date.padded_length positive short⟩) (by omega)
  rw [number, bind_of_ok (blanks_padded width n rest), bind_of_ok read]
  simp only [value]
  rw [if_neg (by omega)]
  rfl

end Padded

/-- A year is read up to the hyphen. -/
theorem year_run {year : Int} (least : -262143 ≤ year) (most : year ≤ 262142) (rest : List Char) :
    Reading.year (Date.yearText year ++ '-' :: rest) = .ok (year, '-' :: rest) := by
  have stops : Stops ('-' :: rest) := by
    rintro c ⟨⟩
    rfl
  have within : ¬ (year < Int32.minValue.toInt ∨ Int32.maxValue.toInt < year) := by
    have : Int32.minValue.toInt = -2147483648 ∧ Int32.maxValue.toInt = 2147483647 := by decide
    omega
  unfold Date.yearText
  split
  · rename_i plain
    obtain ⟨all, -, nonempty, value⟩ := Date.padded_spec 4 year.toNat
    have read : digits (some 4) (Date.padded 4 year.toNat ++ '-' :: rest) =
        .ok (Date.padded 4 year.toNat, '-' :: rest) :=
      digits_run all nonempty (.inl ⟨4, rfl, Date.padded_length (by decide) (by omega)⟩) (by omega)
    obtain ⟨d, ds, same⟩ := List.exists_cons_of_ne_nil nonempty
    have first : d.isDigit = true := all d (by simp [same])
    rw [Reading.year, bind_of_ok (blanks_padded 4 year.toNat _), bind_of_ok (get_run _)]
    generalize ahead : Date.padded 4 year.toNat ++ '-' :: rest = s at read
    rw [same] at ahead
    split
    · obtain ⟨rfl, -⟩ := List.cons.inj ahead
      cases first
    · obtain ⟨rfl, -⟩ := List.cons.inj ahead
      cases first
    · rw [bind_of_ok read, bind_of_ok (pure_run _ _), value, Int.toNat_of_nonneg plain.1]
      simp only [within, ↓reduceIte]
      rfl
  · rename_i signed
    obtain ⟨all, -, nonempty, value⟩ := Date.padded_spec 4 year.natAbs
    have read : digits none (Date.padded 4 year.natAbs ++ '-' :: rest) =
        .ok (Date.padded 4 year.natAbs, '-' :: rest) :=
      digits_run all nonempty (.inr ⟨by simp, stops⟩) (by omega)
    have solid : Text.isBlank (if year < 0 then '-' else '+') = false := by split <;> rfl
    rw [List.cons_append, Reading.year, bind_of_ok (blanks_run solid _), bind_of_ok (get_run _)]
    by_cases negative : year < 0
    · have back : -(year.natAbs : Int) = year := by omega
      simp only [negative, ↓reduceIte]
      rw [bind_of_ok (set_run _ _), bind_of_ok read, bind_of_ok (pure_run _ _), value, back]
      simp only [within, ↓reduceIte]
      rfl
    · have back : (year.natAbs : Int) = year := by omega
      simp only [negative, ↓reduceIte]
      rw [bind_of_ok (set_run _ _), bind_of_ok read, bind_of_ok (pure_run _ _), value, back]
      simp only [within, ↓reduceIte]
      rfl

theorem separator_run (s : List Char) : separator ('T' :: s) = .ok ((), s) := rfl

theorem offset_run : Reading.offset ['Z'] = .ok (0, []) := rfl

section Fraction
variable {c : Char} {rest : List Char} (digit : c.isDigit = false)
include digit

private theorem fraction_padded {width n : Nat} (positive : 0 < width) (few : width ≤ 9)
    (short : n < 10 ^ width) :
    fraction ('.' :: Date.padded width n ++ c :: rest) = .ok (n * 10 ^ (9 - width), c :: rest) := by
  obtain ⟨all, -, nonempty, value⟩ := Date.padded_spec width n
  have length := Date.padded_length positive short
  have stops : Stops (c :: rest) := by
    rintro _ ⟨⟩
    exact digit
  have bound : (10 : Nat) ^ width ≤ 10 ^ 9 := Nat.pow_le_pow_right (by decide) few
  have read : digits (some 9) (Date.padded width n ++ c :: rest) = .ok (Date.padded width n, c :: rest) :=
    digits_run all nonempty (.inr ⟨by rintro w ⟨⟩; omega, stops⟩) (by omega)
  rw [List.cons_append, fraction, bind_of_ok (get_run _)]
  simp only
  rw [bind_of_ok (set_run _ _), bind_of_ok read, length, digitsValue_append_zeros, value]
  have passed : (c :: rest).dropWhile Char.isDigit = c :: rest :=
    List.dropWhile_cons_of_neg (by simp [digit])
  exact congrArg (fun s => Except.ok (_, s)) passed

/-- A fraction of a second is read up to the letter of the zone. -/
theorem fraction_run {nano : Nat} (small : nano < 1000000000) (point : c ≠ '.') :
    fraction (fractionChars nano ++ c :: rest) = .ok (nano, c :: rest) := by
  unfold fractionChars
  split
  · rename_i zero_
    rw [zero_, List.nil_append, fraction, bind_of_ok (get_run _)]
    generalize same : c :: rest = s
    split
    · cases same
      exact absurd rfl point
    · rfl
  · split
    · rename_i millis
      rw [fraction_padded digit (by decide) (by decide) (by omega)]
      congr 2
      omega
    · split
      · rename_i micros
        rw [fraction_padded digit (by decide) (by decide) (by omega)]
        congr 2
        omega
      · rw [fraction_padded digit (by decide) (by decide) (by omega)]
        congr 2
        omega

end Fraction

end Instant.Reading

namespace Instant
variable (t : Instant)

private theorem zuluText_parts :
    t.zuluText.toList = Date.yearText (Date.ofDay t.day).year ++ '-' ::
      (Date.padded 2 (Date.ofDay t.day).month ++ '-' :: (Date.padded 2 (Date.ofDay t.day).day ++ 'T' ::
        (Date.padded 2 (t.second / 3600) ++ ':' :: (Date.padded 2 (t.second / 60 % 60) ++ ':' ::
          (Date.padded 2 (t.second % 60 + t.nano / 1000000000) ++
            (fractionChars (t.nano % 1000000000) ++ ['Z'])))))) := by
  simp [zuluText, text, Date.chars, timeChars]

/-- A leap second that the instant lies in ends a minute. -/
def LeapEndsMinute : Prop := 1000000000 ≤ t.nano → t.second % 60 = 59

instance : Decidable t.LeapEndsMinute := inferInstanceAs (Decidable (_ → _))

/-- The instant with the same form in documents whose leap second ends a minute: a leap second within a
minute is taken for the second that comes next. -/
def settled : Instant :=
  if h : t.LeapEndsMinute then t
  else
    { t with
      second := t.second + 1
      nano := t.nano - 1000000000
      second_lt := by
        have inside := t.second_lt
        simp only [LeapEndsMinute, Classical.not_imp] at h
        omega
      nano_lt := Nat.lt_of_le_of_lt (Nat.sub_le _ _) t.nano_lt }

theorem settled_eq_iff : t.settled = t ↔ t.LeapEndsMinute := by
  constructor
  · intro same
    by_contra within
    have second := congrArg Instant.second same
    rw [settled, dif_neg within] at second
    exact absurd second (Nat.succ_ne_self _)
  · exact fun ends => dif_pos ends

private theorem make?_parts :
    let leap := (t.second % 60 + t.nano / 1000000000) / 60
    let local_ : Int := ((t.second / 3600 * 60 + t.second / 60 % 60) * 60 +
      (t.second % 60 + t.nano / 1000000000 - leap) : Nat) - 0 * 60
    let total := (Date.ofDay t.day).toDay * 86400 + local_
    make? (total / 86400) (total % 86400).toNat (t.nano % 1000000000 + leap * 1000000000) =
      some t.settled := by
  intro leap local_ total
  obtain ⟨-, back, -, -, -⟩ := Date.ofDay_spec t.day
  have inside := t.second_lt
  have short := t.nano_lt
  have day : t.settled.day = t.day := by
    unfold settled
    split <;> rfl
  have parts : total = t.settled.day * 86400 + t.settled.second ∧
      t.nano % 1000000000 + leap * 1000000000 = t.settled.nano := by
    rw [day]
    simp only [total, local_, leap, back]
    unfold settled
    split
    · rename_i ends
      unfold LeapEndsMinute at ends
      omega
    · rename_i within
      simp only [LeapEndsMinute, Classical.not_imp] at within
      dsimp only
      omega
  have inside := t.settled.second_lt
  have day : total / 86400 = t.settled.day := by omega
  have second : (total % 86400).toNat = t.settled.second := by omega
  rw [day, second, parts.2, make?,
    dif_pos ⟨⟨t.settled.day_ge, t.settled.day_le⟩, inside, t.settled.nano_lt⟩]

/-- An instant is read from the form that documents hold, whatever its year, its fraction or its leap
second, if that ends a minute. -/
theorem read_zuluText : Instant.read t.zuluText = .ok t.settled := by
  obtain ⟨real, -, inYear, months, days⟩ := Date.ofDay_spec t.day
  obtain ⟨least, most⟩ := Date.yearOf_within t.day_ge t.day_le
  rw [← inYear] at least most
  have hsecond := t.second_lt
  have hnano := t.nano_lt
  have read : Reading.instant t.zuluText.toList = .ok (t.settled, []) := by
    rw [t.zuluText_parts, Reading.instant, bind_of_ok (Reading.year_run least most _),
      bind_of_ok (Reading.blanks_run rfl _), bind_of_ok (Reading.mark_run _ _),
      bind_of_ok (Reading.number_run (by decide) (by omega) months.1 months.2 (by decide) _),
      bind_of_ok (Reading.blanks_run rfl _), bind_of_ok (Reading.mark_run _ _),
      bind_of_ok (Reading.number_run (by decide) (by omega) days.1 days.2 (by decide) _),
      bind_of_ok (Reading.separator_run _),
      bind_of_ok (Reading.number_run (by decide) (by omega) (by omega) (by omega) (by decide) _),
      bind_of_ok (Reading.blanks_run rfl _), bind_of_ok (Reading.mark_run _ _),
      bind_of_ok (Reading.number_run (by decide) (by omega) (by omega) (by omega) (by decide) _),
      bind_of_ok (Reading.blanks_run rfl _), bind_of_ok (Reading.mark_run _ _),
      bind_of_ok (Reading.number_run (by decide) (by omega) (by omega) (by omega) (by decide) _),
      bind_of_ok (Reading.fraction_run rfl (by omega) (by decide)),
      bind_of_ok (Reading.blanks_run rfl _), bind_of_ok Reading.offset_run]
    have done : Reading.blanks [] = .ok ((), []) := rfl
    have offset_ : Int.natAbs 0 < 1440 := by decide
    rw [bind_of_ok done, bind_of_ok (get_run _)]
    simp only [List.isEmpty_nil, least, most, real, and_self, offset_, ↓reduceIte]
    rw [t.make?_parts]
    rfl
  unfold Instant.read
  change Except.map _ (Reading.instant t.zuluText.toList) = _
  rw [read]
  rfl

end Instant
end Clickstream
