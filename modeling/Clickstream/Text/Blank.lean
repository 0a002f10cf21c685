import Clickstream.Text.Range

/-! Blank characters, by the White_Space property, and the texts between them.
Zero-width characters and the byte-order mark are not blank. -/
namespace Clickstream.Text

/-- Code points with the White_Space property. -/
def blankRanges : List (Nat × Nat) :=
  [(0x09, 0x0D), (0x20, 0x20), (0x85, 0x85), (0xA0, 0xA0), (0x1680, 0x1680), (0x2000, 0x200A),
   (0x2028, 0x2029), (0x202F, 0x202F), (0x205F, 0x205F), (0x3000, 0x3000)]

def isBlank (c : Char) : Bool := inRanges blankRanges c

/-- The characters from the first that is not blank. -/
def trimStart (cs : List Char) : List Char := cs.dropWhile isBlank

/-- The characters up to the last that is not blank. -/
def trimEnd (cs : List Char) : List Char := (cs.reverse.dropWhile isBlank).reverse

/-- The text without the blanks around it. -/
def trim (s : String) : String := String.ofList (trimEnd (trimStart s.toList))

/-- The pieces of a list between the elements that satisfy `p`; there is always one piece. -/
def pieces {α : Type} (p : α → Bool) : List α → List (List α)
  | [] => [[]]
  | a :: rest =>
    if p a then [] :: pieces p rest
    else
      match pieces p rest with
      | [] => [[a]]
      | piece :: others => (a :: piece) :: others

theorem pieces_ne_nil {α : Type} (p : α → Bool) (l : List α) : pieces p l ≠ [] := by
  cases l with
  | nil => simp [pieces]
  | cons a rest =>
    unfold pieces
    split
    · simp
    · split <;> simp

/-- The texts between the occurrences of one character. -/
def splitAt (separator : Char) (s : String) : List String :=
  (pieces (· == separator) s.toList).map String.ofList

/-- Every run of blanks made one space, and none at the ends. -/
def collapse (s : String) : String :=
  let words := (pieces isBlank s.toList).filter fun word => !word.isEmpty
  " ".intercalate (words.map String.ofList)

end Clickstream.Text
