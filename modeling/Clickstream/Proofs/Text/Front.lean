import Mathlib.Data.List.TakeWhile

/-! The items of a kind at the front of a list, before whatever does not go on with them. -/
namespace Clickstream.Text
variable {α : Type} {p : α → Bool} {front rest : List α}

theorem drop_takeWhile (p : α → Bool) (items rest : List α) :
    (items ++ rest).drop (items.takeWhile p).length = items.drop (items.takeWhile p).length ++ rest :=
  List.drop_append_of_le_length (List.takeWhile_sublist p).length_le

section Stops
variable (stops : ∀ a, rest.head? = some a → p a = false)
include stops

private theorem takeWhile_rest : rest.takeWhile p = [] := by
  cases rest with
  | nil => rfl
  | cons a rest => exact List.takeWhile_cons_of_neg (by simp [stops a rfl])

private theorem dropWhile_rest : rest.dropWhile p = rest := by
  cases rest with
  | nil => rfl
  | cons a rest => exact List.dropWhile_cons_of_neg (by simp [stops a rfl])

theorem takeWhile_append (items : List α) : (items ++ rest).takeWhile p = items.takeWhile p := by
  induction items with
  | nil => exact takeWhile_rest stops
  | cons a items ih => simp only [List.cons_append, List.takeWhile_cons, ih]

theorem takeWhile_front (all : ∀ a ∈ front, p a = true) : (front ++ rest).takeWhile p = front := by
  rw [List.takeWhile_append_of_pos all, takeWhile_rest stops, List.append_nil]

theorem dropWhile_front (all : ∀ a ∈ front, p a = true) : (front ++ rest).dropWhile p = rest := by
  rw [List.dropWhile_append_of_pos all, dropWhile_rest stops]

end Stops
end Clickstream.Text
