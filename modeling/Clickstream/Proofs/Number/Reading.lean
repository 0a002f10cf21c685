import Clickstream.Proofs.Number.Numeral
import Clickstream.Proofs.Number.Written
import Clickstream.Proofs.Text.Front

/-! Numbers are read back from what is written for them, whatever the layout is. -/
namespace Clickstream

section Decimals
variable {digits : ℕ} {power : ℤ}

/-- The number of digits places a number between two powers of ten. -/
theorem toDigits_bounds (positive : 0 < digits) :
    (10 : ℚ) ^ ((Nat.toDigits 10 digits).length - 1 : ℤ) ≤ digits ∧
      (digits : ℚ) < 10 ^ ((Nat.toDigits 10 digits).length : ℤ) := by
  have some_ : 0 < (Nat.toDigits 10 digits).length := List.length_pos_iff.mpr Nat.toDigits_ne_nil
  generalize length : (Nat.toDigits 10 digits).length = k at some_ ⊢
  have below : digits < 10 ^ k := (Nat.length_toDigits_le_iff (by decide) some_).mp length.le
  refine ⟨?_, by exact_mod_cast below⟩
  have last : ((k : ℤ) - 1) = (k - 1 : ℕ) := by omega
  rw [last, zpow_natCast]
  rcases Nat.eq_zero_or_pos (k - 1) with one | more
  · rw [one, pow_zero]
    exact_mod_cast positive
  · have above : ¬digits < 10 ^ (k - 1) := by
      rw [← Nat.length_toDigits_le_iff (by decide) more, length]
      omega
    exact_mod_cast Nat.not_lt.mp above

namespace Binary64
variable {mantissa : ℕ} {exponent : ℤ} {q : ℚ}

theorem contains_bounds (nonzero : mantissa ≠ 0) (canonical : CanonicalParts mantissa exponent)
    (inside : (neighbourhood mantissa exponent).Contains q) :
    (2 : ℚ) ^ (-1075 : ℤ) ≤ q ∧ q < 2 ^ (1025 : ℤ) := by
  obtain ⟨least, most⟩ := value_bounds nonzero canonical
  have one : (1 : ℚ) ≤ mantissa := by exact_mod_cast Nat.one_le_iff_ne_zero.mpr nonzero
  have small : (gap mantissa exponent : ℚ) ≤ 2 := by exact_mod_cast (gap_le mantissa exponent).2
  have unit : (0 : ℚ) < 2 ^ exponent := by positivity
  have two : (2 : ℚ) ≠ 0 := two_ne_zero
  have half : (2 : ℚ) ^ (-1075 : ℤ) = 2 ^ (-1074 : ℤ) / 2 := by
    rw [eq_div_iff two, ← zpow_add_one₀ two]
    rfl
  have twice : (2 : ℚ) ^ (1025 : ℤ) = 2 ^ (1024 : ℤ) * 2 := zpow_add_one₀ two 1024
  have ends : (mantissa - gap mantissa exponent / 4 : ℚ) * 2 ^ exponent ≤ q ∧
      q ≤ (mantissa + 1 / 2) * 2 ^ exponent := by
    rw [contains_iff nonzero] at inside
    split at inside
    · exact inside
    · exact ⟨inside.1.le, inside.2.le⟩
  rw [half, twice]
  constructor
  · calc (2 ^ (-1074 : ℤ) / 2 : ℚ) ≤ mantissa * 2 ^ exponent / 2 := by linarith
      _ = mantissa / 2 * 2 ^ exponent := by ring
      _ ≤ (mantissa - gap mantissa exponent / 4) * 2 ^ exponent := by gcongr; linarith
      _ ≤ q := ends.1
  · calc q ≤ (mantissa + 1 / 2) * 2 ^ exponent := ends.2
      _ ≤ mantissa * 2 * 2 ^ exponent := by gcongr; linarith
      _ = mantissa * 2 ^ exponent * 2 := by ring
      _ < 2 ^ (1024 : ℤ) * 2 := by linarith

/-- A decimal in the neighbourhood of a number is read as this number. -/
theorem ofDecimal_of_contains (nonzero : mantissa ≠ 0) (canonical : CanonicalParts mantissa exponent)
    (inside : (neighbourhood mantissa exponent).Contains (digits * 10 ^ power)) (negative : Bool) :
    ofDecimal negative digits power = .finite negative mantissa exponent canonical := by
  have ten : (1 : ℚ) < 10 := by norm_num
  have positive : 0 < digits := by
    refine Nat.pos_of_ne_zero fun zero_ => ?_
    have := contains_pos nonzero inside
    rw [zero_, Nat.cast_zero, zero_mul] at this
    exact lt_irrefl _ this
  obtain ⟨least, most⟩ := contains_bounds nonzero canonical inside
  obtain ⟨above, below⟩ := toDigits_bounds positive
  have notSmall : ¬power + (Nat.toDigits 10 digits).length < -330 := by
    intro small
    refine absurd least (not_le.mpr ?_)
    calc (digits * 10 ^ power : ℚ) < 10 ^ ((Nat.toDigits 10 digits).length : ℤ) * 10 ^ power := by gcongr
      _ = 10 ^ (power + (Nat.toDigits 10 digits).length) := by
        rw [← zpow_add₀ (by norm_num), add_comm]
      _ ≤ 2 ^ (-1075 : ℤ) := ten_zpow_le (.inr ⟨by decide, by omega⟩)
  have notLarge : ¬310 < power + (Nat.toDigits 10 digits).length := by
    intro large
    refine absurd most (not_lt.mpr ?_)
    have bound : (2 : ℚ) ^ (1025 : ℤ) ≤ 10 ^ (310 : ℤ) := by
      have small : (10 : ℚ) ^ (-310 : ℤ) ≤ 2 ^ (-1025 : ℤ) := ten_zpow_le (.inr ⟨by decide, by decide⟩)
      rw [zpow_neg, zpow_neg] at small
      exact (inv_le_inv₀ (by positivity) (by positivity)).mp small
    calc (2 : ℚ) ^ (1025 : ℤ) ≤ 10 ^ (310 : ℤ) := bound
      _ ≤ 10 ^ (((Nat.toDigits 10 digits).length - 1 : ℤ) + power) :=
        zpow_le_zpow_right₀ ten.le (by omega)
      _ = 10 ^ ((Nat.toDigits 10 digits).length - 1 : ℤ) * 10 ^ power := zpow_add₀ (by norm_num) _ _
      _ ≤ digits * 10 ^ power := by gcongr
  unfold ofDecimal
  simp only
  rw [if_neg (not_or.mpr ⟨positive.ne', notSmall⟩), if_neg notLarge]
  refine round_of_contains nonzero canonical (by positivity) ?_ negative
  have value : ((digits * 10 ^ power.toNat : ℕ) / (10 ^ (-power).toNat : ℕ) : ℚ) = digits * 10 ^ power := by
    rw [ten_zpow_eq]
    push_cast
    ring
  exact value ▸ inside

end Binary64
end Decimals

section Parts
variable {whole fraction after tail digits : List Char} {k : ℤ}

private theorem exponent?_nil : Binary64.exponent? [] = some 0 := rfl

private theorem exponent?_stops (read : Binary64.exponent? tail = some k) :
    ∀ c, tail.head? = some c → c.isDigit = false ∧ c ≠ '.' := by
  intro c head
  cases tail with
  | nil => cases head
  | cons d rest =>
    obtain rfl := Option.some.inj head
    unfold Binary64.exponent? at read
    simp only at read
    split at read
    · rename_i letter
      rcases letter with rfl | rfl <;> decide
    · cases read

private def Reads (negative : Bool) (text : List Char) (value : ℚ) : Prop :=
  ∃ (n : ℕ) (p : ℤ), Binary64.decimal? negative text = some (Binary64.ofDecimal negative n p) ∧
    (n * 10 ^ p : ℚ) = value

private theorem reads_parts (written : IsDigits whole)
    (point : fraction = [] ∧ after = [] ∨ fraction = '.' :: after)
    (all : ∀ c ∈ after, c.isDigit = true) (read : Binary64.exponent? tail = some k) (negative : Bool) :
    Reads negative (whole ++ fraction ++ tail)
      (digitsValue (whole ++ after) * 10 ^ (k - after.length : ℤ)) := by
  refine ⟨_, _, ?_, rfl⟩
  have stops := exponent?_stops read
  have nonempty : whole.isEmpty = false := List.isEmpty_eq_false_iff.mpr written.nonempty
  have ends : ∀ c, (fraction ++ tail).head? = some c → c.isDigit = false := by
    intro c head
    rcases point with ⟨rfl, -⟩ | rfl
    · exact (stops c head).1
    · obtain rfl := Option.some.inj head
      rfl
  unfold Binary64.decimal?
  rw [List.append_assoc, Text.takeWhile_front ends written.digits, Text.dropWhile_front ends written.digits]
  rcases point with ⟨rfl, rfl⟩ | rfl
  · rw [List.nil_append]
    cases tail with
    | nil => simp [nonempty, read]
    | cons c rest =>
      have other := (stops c rfl).2
      simp only [nonempty, Bool.false_and, Bool.false_eq_true, ↓reduceIte]
      split
      · rename_i same
        exact absurd (List.cons.inj same).1 other
      · simp [read]
  · have ends' : ∀ c, tail.head? = some c → c.isDigit = false := fun c head => (stops c head).1
    simp only [List.cons_append, Text.takeWhile_front ends' all, Text.dropWhile_front ends' all, nonempty,
      Bool.false_and, Bool.false_eq_true, ↓reduceIte, read]
    rfl

end Parts

namespace Layout
variable (layout : Layout) {digits : List Char}

private theorem positional_read (all : IsDigits digits) (power : ℤ) (negative : Bool) :
    Reads negative (layout.positional digits power) (digitsValue digits * 10 ^ power) := by
  have zeros (k : ℕ) : ∀ c ∈ List.replicate k '0', c.isDigit = true := by
    intro c there
    rw [List.eq_of_mem_replicate there]
    rfl
  unfold positional
  simp only
  split
  · rename_i up
    obtain ⟨k, rfl⟩ := Int.eq_ofNat_of_zero_le up
    have whole : IsDigits (digits ++ List.replicate k '0') := all.append (zeros k)
    cases layout.keepsPoint with
    | false =>
      have read := reads_parts whole (.inl ⟨rfl, rfl⟩) (zeros 0) exponent?_nil negative
      rw [List.append_nil, List.append_nil, digitsValue_append_zeros] at read
      simpa using read
    | true =>
      have read := reads_parts whole (.inr rfl) (zeros 1) exponent?_nil negative
      rw [List.append_nil, digitsValue_append_zeros, digitsValue_append_zeros] at read
      have value : ((digitsValue digits * 10 ^ k * 10 ^ 1 : ℕ) *
          10 ^ (0 - (List.replicate 1 '0').length : ℤ) : ℚ) = digitsValue digits * 10 ^ (k : ℤ) := by
        push_cast
        norm_num
        ring
      rwa [value] at read
  · rename_i down
    split
    · rename_i inside
      have before : digits.length - (-power).toNat ≠ 0 := by omega
      have whole : IsDigits (digits.take (digits.length - (-power).toNat)) :=
        all.of_sublist (List.take_sublist _ _) (by simp [all.nonempty, before])
      have after : ∀ c ∈ digits.drop (digits.length - (-power).toNat), c.isDigit = true :=
        fun c there => all.digits c (List.mem_of_mem_drop there)
      have places : (0 - (digits.drop (digits.length - (-power).toNat)).length : ℤ) = power := by
        rw [List.length_drop]
        omega
      have read := reads_parts whole (.inr rfl) after exponent?_nil negative
      rw [List.append_nil, List.take_append_drop, places] at read
      simpa using read
    · rename_i beyond
      have after : ∀ c ∈ List.replicate ((-power).toNat - digits.length) '0' ++ digits, c.isDigit = true :=
        fun c there => (List.mem_append.mp there).elim (zeros _ c) (all.digits c)
      have places : (0 - (List.replicate ((-power).toNat - digits.length) '0' ++ digits).length : ℤ) =
          power := by
        rw [List.length_append, List.length_replicate]
        omega
      have read := reads_parts .zero (.inr rfl) after exponent?_nil negative
      have value : digitsValue (['0'] ++ (List.replicate ((-power).toNat - digits.length) '0' ++ digits)) =
          digitsValue digits := (digitsValue_zeros 1 _).trans (digitsValue_zeros _ _)
      rw [List.append_nil, value, places] at read
      simpa using read

private theorem exponent_read (first : ℤ) :
    Binary64.exponent? ('e' :: ((if first < 0 then ['-'] else if layout.signsExponent then ['+'] else []) ++
      Nat.toDigits 10 first.natAbs)) = some first := by
  have letter (rest : List Char) : Binary64.exponent? ('e' :: rest) =
      (digits? (signed rest).2).map fun n => if (signed rest).1 then -(n : ℤ) else n := rfl
  have minus (rest : List Char) : signed ('-' :: rest) = (true, rest) := rfl
  have plus (rest : List Char) : signed ('+' :: rest) = (false, rest) := rfl
  rw [letter]
  rcases lt_or_ge first 0 with down | up
  · have back : -(first.natAbs : ℤ) = first := by omega
    rw [if_pos down, List.singleton_append, minus, digits?_toDigits]
    exact congrArg some back
  · have same : (first.natAbs : ℤ) = first := by omega
    rw [if_neg (not_lt.mpr up)]
    cases layout.signsExponent with
    | true =>
      rw [if_pos rfl, List.singleton_append, plus, digits?_toDigits]
      exact congrArg some same
    | false =>
      rw [if_neg Bool.false_ne_true, List.nil_append, signed_digits (digits_toDigits _), digits?_toDigits]
      exact congrArg some same

private theorem scientific_read (all : IsDigits digits) (first : ℤ) (negative : Bool) :
    Reads negative (layout.scientific digits first)
      (digitsValue digits * 10 ^ (first - (digits.length - 1 : ℤ))) := by
  have nonempty := List.length_pos_iff.mpr all.nonempty
  have whole : IsDigits (digits.take 1) := all.of_sublist (List.take_sublist _ _) (by simp [all.nonempty])
  have after : ∀ c ∈ digits.drop 1, c.isDigit = true :=
    fun c there => all.digits c (List.mem_of_mem_drop there)
  have point : (if digits.length ≤ 1 then [] else '.' :: digits.drop 1) = [] ∧ digits.drop 1 = [] ∨
      (if digits.length ≤ 1 then [] else '.' :: digits.drop 1) = '.' :: digits.drop 1 := by
    split
    · rename_i single
      exact .inl ⟨rfl, List.drop_eq_nil_of_le single⟩
    · exact .inr rfl
  have read := reads_parts whole point after (layout.exponent_read first) negative
  have places : ((digits.drop 1).length : ℤ) = digits.length - 1 := by
    rw [List.length_drop]
    omega
  rw [List.take_append_drop, places] at read
  simpa [scientific] using read

variable {mantissa : ℕ} {exponent : ℤ}

/-- The size of a number is read back: its digits stand for a decimal that is rounded to it. -/
theorem unsigned_read (canonical : CanonicalParts mantissa exponent) (negative : Bool) :
    Binary64.decimal? negative (layout.unsigned mantissa exponent) =
      some (.finite negative mantissa exponent canonical) := by
  unfold unsigned
  simp only
  split
  · rename_i zero_
    subst zero_
    obtain rfl : exponent = -1074 := canonical.2.2.2.resolve_left (by decide)
    obtain ⟨n, p, read, value⟩ := layout.positional_read .zero 0 negative
    have none_ : n = 0 := by
      have digit : digitsValue ['0'] = 0 := rfl
      rw [digit, Nat.cast_zero, zero_mul, mul_eq_zero, or_iff_left (by positivity)] at value
      exact_mod_cast value
    rw [read, none_, Binary64.ofDecimal, if_pos (.inl rfl), Binary64.zero, Binary64.ofParts,
      dif_pos canonical]
  · rename_i nonzero
    have inside := Binary64.shortest_contains nonzero canonical layout.tie
    generalize Binary64.shortest layout.tie mantissa exponent = point at inside
    have whole := digitsValue_toDigits point.digits
    have reads (text : List Char) (here : Reads negative text point.toRat) :
        Binary64.decimal? negative text = some (.finite negative mantissa exponent canonical) := by
      obtain ⟨n, p, read, value⟩ := here
      rw [read, Binary64.ofDecimal_of_contains nonzero canonical (value ▸ inside)]
    refine reads _ ?_
    split
    · have read := layout.positional_read (.of_toDigits point.digits) point.power negative
      rwa [whole] at read
    · have read := layout.scientific_read (.of_toDigits point.digits)
        (point.power + (Nat.toDigits 10 point.digits).length - 1) negative
      have power : point.power + (Nat.toDigits 10 point.digits).length - 1 -
          ((Nat.toDigits 10 point.digits).length - 1) = point.power := by ring
      rwa [whole, power] at read

private theorem toLower_digit {d : Char} (digit : d.isDigit = true) : d.toLower = d := by
  have bounds : (decide (48 ≤ d.val) && decide (d.val ≤ 57)) = true := digit
  rw [Bool.and_eq_true, decide_eq_true_eq, decide_eq_true_eq, UInt32.le_iff_toNat_le,
    UInt32.le_iff_toNat_le] at bounds
  refine dif_neg fun upper => ?_
  have above : 65 ≤ d.val.toNat := UInt32.le_iff_toNat_le.mp upper.1
  have below : d.val.toNat ≤ 57 := bounds.2
  omega

private theorem not_named {cs : List Char} (numeral : IsNumeral cs) {name : String} {c : Char}
    (head : name.toList.head? = some c) (other : c.isDigit = false) :
    String.ofList (cs.map Char.toLower) ≠ name := by
  obtain ⟨d, ds, rfl, digit⟩ := numeral.head
  rintro rfl
  rw [String.toList_ofList, List.map_cons, toLower_digit digit] at head
  obtain rfl := Option.some.inj head
  rw [digit] at other
  cases other

/-- Every number is read back from its text. -/
theorem ofText?_text (x : Binary64) : Binary64.ofText? (layout.text x) = some x := by
  cases x with
  | nan =>
    change Binary64.ofText? "NaN" = some .nan
    decide
  | infinite negative =>
    cases negative with
    | true =>
      change Binary64.ofText? "-inf" = some (.infinite true)
      decide
    | false =>
      change Binary64.ofText? "inf" = some (.infinite false)
      decide
  | finite negative mantissa exponent canonical =>
    have numeral := layout.unsigned_isNumeral canonical
    have parts : signed (layout.text (.finite negative mantissa exponent canonical)).toList =
        (negative, layout.unsigned mantissa exponent) := by
      rw [text, String.toList_ofList]
      cases negative with
      | true => rfl
      | false =>
        obtain ⟨d, ds, digits, digit⟩ := numeral.head
        rw [digits]
        exact signed_digit digit ds
    unfold Binary64.ofText?
    rw [parts]
    simp only
    rw [if_neg (not_named numeral rfl rfl),
      if_neg (not_or.mpr ⟨not_named numeral rfl rfl, not_named numeral rfl rfl⟩)]
    exact layout.unsigned_read canonical negative

theorem text_injective : Function.Injective layout.text := fun x y same => by
  have read := layout.ofText?_text x
  rw [same, ofText?_text] at read
  exact (Option.some.inj read).symm

end Layout
end Clickstream
