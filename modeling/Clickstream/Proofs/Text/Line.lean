import Clickstream.Text.Blank

/-! Lines of texts and lines of their bytes: a line feed is one byte in UTF-8, and that byte is part
of no other character. -/
namespace Clickstream.Text

/-- The bytes of a text in UTF-8. -/
def utf8 (s : String) : List UInt8 := s.toList.flatMap String.utf8EncodeChar

/-- The lines of a text without the blanks around them. An empty line after the last line feed is
none. -/
def trimmedLines (s : String) : List String :=
  let pieces := pieces (· == '\n') s.toList
  let pieces := if pieces.getLast?.all List.isEmpty then pieces.dropLast else pieces
  pieces.map fun cs => trim (String.ofList cs)

private theorem lineFeed_ne_long {n : Nat} (high : 128 ≤ n) (byte : n < 256) :
    (10 : UInt8) ≠ UInt8.ofNat n := by
  intro same
  have := congrArg UInt8.toNat same
  rw [UInt8.toNat_ofNat_of_lt' byte] at this
  simp at this
  omega

private theorem eq_lineFeed_of_mem {c : Char} (inside : 10 ∈ String.utf8EncodeChar c) :
    c = '\n' := by
  simp only [String.utf8EncodeChar] at inside
  split at inside
  · have code : c.val.toNat = 10 := by
      have := congrArg UInt8.toNat (List.mem_singleton.mp inside)
      rw [UInt8.toNat_ofNat_of_lt' (by simp only [UInt8.size]; omega)] at this
      exact this.symm
    exact Char.ext (UInt32.toNat_inj.mp code)
  · split at inside
    · simp only [List.mem_cons, List.not_mem_nil, or_false] at inside
      rcases inside with h | h <;> exact absurd h (lineFeed_ne_long (by omega) (by omega))
    · split at inside
      · simp only [List.mem_cons, List.not_mem_nil, or_false] at inside
        rcases inside with h | h | h <;> exact absurd h (lineFeed_ne_long (by omega) (by omega))
      · simp only [List.mem_cons, List.not_mem_nil, or_false] at inside
        rcases inside with h | h | h | h <;>
          exact absurd h (lineFeed_ne_long (by omega) (by omega))

/-- What stands before the first separator belongs to the first piece. -/
theorem pieces_prepend {α : Type} {p : α → Bool} {front : List α}
    (inside : ∀ a ∈ front, p a = false) {rest piece : List α} {others : List (List α)}
    (split : pieces p rest = piece :: others) :
    pieces p (front ++ rest) = (front ++ piece) :: others := by
  induction front with
  | nil => exact split
  | cons a front ih =>
    have here : p a = false := inside a List.mem_cons_self
    rw [List.cons_append, pieces, here, ih fun b hb => inside b (List.mem_cons_of_mem a hb)]
    rfl

/-- The lines of bytes are the bytes of lines. -/
theorem pieces_utf8 (cs : List Char) :
    pieces (· == 10) (cs.flatMap String.utf8EncodeChar) =
      (pieces (· == '\n') cs).map fun line => line.flatMap String.utf8EncodeChar := by
  induction cs with
  | nil => rfl
  | cons c cs ih =>
    rw [List.flatMap_cons]
    by_cases feed : c = '\n'
    · subst feed
      have encoded : String.utf8EncodeChar '\n' = [10] := rfl
      rw [encoded, List.singleton_append, pieces, pieces, ih]
      rfl
    · obtain ⟨line, lines, split⟩ := List.exists_cons_of_ne_nil (pieces_ne_nil (· == '\n') cs)
      have other : ∀ b ∈ String.utf8EncodeChar c, (b == 10) = false := by
        intro b inside
        rw [beq_eq_false_iff_ne]
        rintro rfl
        exact feed (eq_lineFeed_of_mem inside)
      rw [split, List.map_cons] at ih
      have here : (c == '\n') = false := beq_eq_false_iff_ne.mpr feed
      rw [pieces_prepend other ih, pieces, here, split]
      rfl

/-- Bytes of a text are read as the text. -/
theorem fromUTF8?_utf8 (cs : List Char) :
    String.fromUTF8? ⟨(cs.flatMap String.utf8EncodeChar).toArray⟩ = some (String.ofList cs) := by
  have encoded : (⟨(cs.flatMap String.utf8EncodeChar).toArray⟩ : ByteArray) = cs.utf8Encode := by
    rw [List.utf8Encode]
    exact ByteArray.ext (Array.toList_inj.mp (by simp))
  rw [encoded, String.fromUTF8?, dif_pos ByteArray.isValidUTF8_utf8Encode]
  rfl

end Clickstream.Text
