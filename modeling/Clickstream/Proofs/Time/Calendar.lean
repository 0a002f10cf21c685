import Mathlib.Algebra.BigOperators.Group.List.Basic
import Mathlib.Algebra.GroupWithZero.Nat
import Mathlib.Order.Monotone.Basic
import Clickstream.Time.Calendar

/-! Every day has one date that exists, and the date is of that day. -/
namespace Clickstream.Date

section Year
variable (year day : Int)

/-- A year is as long as its months. -/
theorem yearStart_succ : yearStart (year + 1) = yearStart year + (monthLengths year).sum := by
  have leap : ((monthLengths year).sum : Int) = 365 + (if isLeap year then 1 else 0) := by
    unfold monthLengths
    split <;> rfl
  rw [leap]
  by_cases divides : isLeap year
  · rw [if_pos divides]
    simp only [isLeap, Bool.and_eq_true, Bool.or_eq_true, decide_eq_true_eq, ne_eq] at divides
    unfold yearStart
    omega
  · rw [if_neg divides]
    simp only [isLeap, Bool.and_eq_true, Bool.or_eq_true, decide_eq_true_eq, ne_eq] at divides
    unfold yearStart
    omega

theorem yearOf_bounds : yearStart (yearOf day) ≤ day ∧ day < yearStart (yearOf day + 1) := by
  unfold yearOf
  simp only
  generalize guess : (day + 719527) * 400 / 146097 = year
  have near : yearStart (year - 1) ≤ day ∧ day < yearStart (year + 1 + 1) := by
    unfold yearStart
    omega
  split
  · rename_i early
    rw [Int.sub_add_cancel]
    exact ⟨near.1, early⟩
  · split
    · rename_i late
      exact ⟨late, near.2⟩
    · rename_i inside before
      exact ⟨by omega, by omega⟩

end Year

section Month
variable {lengths : List Nat}

/-- The days of the months before one, and the days of that month up to one, are those that lie ahead. -/
theorem monthAndDay_spec (start rest : Nat) (inside : rest < lengths.sum) :
    ∃ k length, monthAndDay lengths start rest = (start + k, rest - (lengths.take k).sum + 1) ∧
      lengths[k]? = some length ∧ (lengths.take k).sum ≤ rest ∧ rest - (lengths.take k).sum < length := by
  induction lengths generalizing start rest with
  | nil => simp at inside
  | cons first others ih =>
    rw [monthAndDay]
    split
    · rename_i here
      exact ⟨0, first, by simp, rfl, by simp, by simpa using here⟩
    · rename_i later
      rw [List.sum_cons] at inside
      obtain ⟨k, length, same, there, least, most⟩ := ih (start + 1) (rest - first) (by omega)
      refine ⟨k + 1, length, ?_, there, ?_, ?_⟩
      · rw [same, List.take_succ_cons, List.sum_cons]
        congr 1 <;> omega
      · rw [List.take_succ_cons, List.sum_cons]
        omega
      · rw [List.take_succ_cons, List.sum_cons]
        omega

end Month

/-- The date of a day exists, and is of that day. -/
theorem ofDay_spec (day : Int) : (ofDay day).isReal = true ∧ (ofDay day).toDay = day ∧
    (ofDay day).year = yearOf day ∧ (1 ≤ (ofDay day).month ∧ (ofDay day).month ≤ 12) ∧
    1 ≤ (ofDay day).day ∧ (ofDay day).day ≤ 31 := by
  obtain ⟨starts, ends⟩ := yearOf_bounds day
  rw [yearStart_succ] at ends
  have inside : (day - yearStart (yearOf day)).toNat < (monthLengths (yearOf day)).sum := by omega
  obtain ⟨k, length, same, there, least, most⟩ := monthAndDay_spec 1 _ inside
  have parts : ofDay day = ⟨yearOf day, k + 1,
      (day - yearStart (yearOf day)).toNat - ((monthLengths (yearOf day)).take k).sum + 1⟩ := by
    unfold ofDay
    simp only
    rw [same, Nat.add_comm 1 k]
  have short : k < 12 := (List.getElem?_eq_some_iff.mp there).1
  have small : length ≤ 31 := by
    have all : ∀ n ∈ monthLengths (yearOf day), n ≤ 31 := by
      unfold monthLengths
      split <;> decide
    exact all _ (List.mem_of_getElem? there)
  rw [parts]
  refine ⟨?_, ?_, rfl, ⟨by simp, by simp only; omega⟩, by simp, by simp only; omega⟩
  · simp [isReal, there]
    omega
  · unfold toDay
    simp only [Nat.add_sub_cancel, ← List.sum_eq_foldl]
    omega

theorem yearStart_mono {year later : Int} (le : year ≤ later) : yearStart year ≤ yearStart later := by
  have step (year : Int) : yearStart year ≤ yearStart (year + 1) := by
    rw [yearStart_succ]
    omega
  exact monotone_int_of_le_succ step le

/-- The years that instants lie in. -/
theorem yearOf_within {day : Int} (least : -96465292 ≤ day) (most : day ≤ 95026236) :
    -262143 ≤ yearOf day ∧ yearOf day ≤ 262142 := by
  obtain ⟨starts, ends⟩ := yearOf_bounds day
  constructor
  · by_contra early
    have := yearStart_mono (show yearOf day + 1 ≤ -262143 by omega)
    have : yearStart (-262143) = -96465292 := by decide
    omega
  · by_contra late
    have := yearStart_mono (show 262143 ≤ yearOf day by omega)
    have : yearStart 262143 = 95026237 := by decide
    omega

end Clickstream.Date
