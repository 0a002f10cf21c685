import Clickstream.Text.Blank

/-! Collapsed texts keep the word they start with. -/
namespace Clickstream.Text

/-- A piece ends where the separator stands. -/
theorem pieces_append {α : Type} {p : α → Bool} {piece : List α} {separator : α}
    (inside : ∀ a ∈ piece, p a = false) (outside : p separator = true) (rest : List α) :
    pieces p (piece ++ separator :: rest) = piece :: pieces p rest := by
  induction piece with
  | nil => simp [pieces, outside]
  | cons a piece ih =>
    have here : p a = false := inside a (by simp)
    have later := ih fun b hb => inside b (List.mem_cons_of_mem a hb)
    rw [List.cons_append, pieces, here, later]
    simp

theorem pieces_solid {α : Type} {p : α → Bool} {piece : List α}
    (inside : ∀ a ∈ piece, p a = false) : pieces p piece = [piece] := by
  induction piece with
  | nil => rfl
  | cons a piece ih =>
    have here : p a = false := inside a (by simp)
    rw [pieces, here, ih fun b hb => inside b (List.mem_cons_of_mem a hb)]
    simp

/-- Every list is a piece, or a piece before a separator and what is behind it. -/
theorem pieces_induction {α : Type} {p : α → Bool} {motive : List α → Prop}
    (last : ∀ piece, (∀ a ∈ piece, p a = false) → motive piece)
    (more : ∀ piece separator rest, (∀ a ∈ piece, p a = false) → p separator = true → motive rest →
      motive (piece ++ separator :: rest)) (l : List α) : motive l := by
  have grown : ∀ front, (∀ a ∈ front, p a = false) → motive (front ++ l) := by
    induction l with
    | nil =>
      intro front inside
      rw [List.append_nil]
      exact last front inside
    | cons a l ih =>
      intro front inside
      cases outside : p a with
      | true => exact more front a l inside outside (ih [] (List.forall_mem_nil _))
      | false =>
        rw [List.append_cons]
        refine ih (front ++ [a]) fun b there => ?_
        rcases List.mem_append.mp there with there | there
        · exact inside b there
        · rwa [List.mem_singleton.mp there]
  exact grown [] (List.forall_mem_nil _)

theorem splitAt_solid {separator : Char} {s : String} (inside : separator ∉ s.toList) :
    splitAt separator s = [s] := by
  have apart : ∀ c ∈ s.toList, (c == separator) = false := by
    intro c there
    rw [beq_eq_false_iff_ne]
    rintro rfl
    exact inside there
  rw [splitAt, pieces_solid apart, List.map_singleton, String.ofList_toList]

/-- The first word of a text is the first word of its collapsed form. -/
theorem collapse_starts {s : String} {word rest : List Char}
    (starts : s.toList = word ++ ' ' :: rest) (some_ : word ≠ [])
    (solid : ∀ c ∈ word, isBlank c = false) :
    (collapse s).toList = word ∨ ∃ more, (collapse s).toList = word ++ ' ' :: more := by
  have first : pieces isBlank s.toList = word :: pieces isBlank rest := by
    rw [starts]
    exact pieces_append solid (by decide) rest
  simp only [collapse, first, List.filter_cons_of_pos (p := fun word : List Char => !word.isEmpty)
    (by simpa using some_), List.map_cons]
  by_cases last : ((pieces isBlank rest).filter fun word => !word.isEmpty).map String.ofList = []
  · left
    rw [last, String.intercalate_singleton, String.toList_ofList]
  · right
    rw [String.intercalate_cons_of_ne_nil last, String.append_assoc, String.toList_append,
      String.toList_append, String.toList_ofList]
    exact ⟨_, rfl⟩

/-- A collapsed text is made of the words between the blanks. -/
theorem toList_collapse (s : String) :
    (collapse s).toList =
      [' '].intercalate ((pieces isBlank s.toList).filter fun word => !word.isEmpty) := by
  have texts (words : List (List Char)) : (words.map String.ofList).map String.toList = words := by
    simp [Function.comp_def]
  rw [collapse, String.toList_intercalate, texts]
  rfl

/-- Of the first 127 characters only spaces and control characters are blank. -/
theorem isBlank_of_visible {c : Char} (visible : 0x20 < c.toNat ∧ c.toNat < 0x7F) : isBlank c = false := by
  simp only [isBlank, inRanges, blankRanges, List.any_cons, List.any_nil, Bool.or_false,
    Bool.or_eq_false_iff, Bool.and_eq_false_imp, decide_eq_true_eq, decide_eq_false_iff_not,
    Nat.not_le]
  omega

/-- Capital letters are not blank. -/
theorem isBlank_of_upper {word : List Char} (upper : word.all (inRanges [(65, 90)]) = true) :
    ∀ c ∈ word, isBlank c = false := by
  intro c there
  have letter := List.all_eq_true.mp upper c there
  simp only [inRanges, List.any_cons, List.any_nil, Bool.or_false, Bool.and_eq_true,
    decide_eq_true_eq] at letter
  exact isBlank_of_visible (by omega)

/-- Nor are small letters. -/
theorem isBlank_of_isLower {c : Char} (lower : c.isLower = true) : isBlank c = false := by
  have both : (decide (97 ≤ c.val) && decide (c.val ≤ 122)) = true := lower
  have bounds : 97 ≤ c.toNat ∧ c.toNat ≤ 122 := by
    rwa [Bool.and_eq_true, decide_eq_true_eq, decide_eq_true_eq, UInt32.le_iff_toNat_le,
      UInt32.le_iff_toNat_le] at both
  exact isBlank_of_visible (by omega)

/-- Digits are not blank. -/
theorem isBlank_of_isDigit {c : Char} (digit : c.isDigit = true) : isBlank c = false := by
  have bounds : 48 ≤ c.toNat ∧ c.toNat ≤ 57 := by
    simp only [Char.isDigit, Bool.and_eq_true, decide_eq_true_eq, ge_iff_le, UInt32.le_iff_toNat_le] at digit
    exact digit
  exact isBlank_of_visible (by omega)

theorem mem_splitAt {word s : String} {separator : Char} :
    word ∈ splitAt separator s ↔ word.toList ∈ pieces (· == separator) s.toList := by
  rw [splitAt, List.mem_map]
  constructor
  · rintro ⟨cs, piece, rfl⟩
    rwa [String.toList_ofList]
  · intro piece
    exact ⟨_, piece, String.ofList_toList⟩

end Clickstream.Text
