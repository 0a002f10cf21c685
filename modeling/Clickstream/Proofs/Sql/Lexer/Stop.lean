import Clickstream.Proofs.Text.Front
import Clickstream.Sql.Lexer

/-! Text before a comma. What leaves the comma takes the same characters before any text that begins
with a comma or a space. -/
namespace Clickstream.Sql.Lexer

/-- A text that ends any token before it: none, or one that begins with a comma or a space. -/
def Stops (z : List Char) : Prop := ∀ c ∈ z.head?, c = ',' ∨ c = ' '

theorem stops_comma : Stops [','] := by simp [Stops]

/-- What is read from before a comma either takes the comma along, or is the same before any text that
ends a token. -/
def Settles {α : Type} (f : List Char → Option (α × List Char)) (cs : List Char) : Prop :=
  ∀ a rest, f (cs ++ [',']) = some (a, rest) → rest = [] ∨ ∃ r, rest = r ++ [','] ∧
    r.length ≤ cs.length ∧ ∀ z, Stops z → f (cs ++ z) = some (a, r ++ z)

section Settles
variable {α β : Type} {f g : List Char → Option (α × List Char)} {cs cs' : List Char}

theorem Settles.stuck (h : f (cs ++ [',']) = none) : Settles f cs := by
  intro a rest read
  rw [h] at read
  cases read

theorem Settles.swallowed {a : α} (h : f (cs ++ [',']) = some (a, [])) : Settles f cs := by
  intro a' rest read
  rw [h] at read
  cases read
  exact .inl rfl

theorem Settles.done (a : α) (r : List Char) (shorter : r.length ≤ cs.length)
    (h : ∀ z, Stops z → f (cs ++ z) = some (a, r ++ z)) : Settles f cs := by
  intro a' rest read
  rw [h _ stops_comma] at read
  cases read
  exact .inr ⟨r, rfl, shorter, h⟩

theorem Settles.map (h : Settles f cs) (φ : α → β) :
    Settles (fun xs => (f xs).map fun (a, after) => (φ a, after)) cs := by
  intro b rest read
  obtain ⟨⟨a, rest'⟩, read, same⟩ := Option.map_eq_some_iff.mp read
  cases same
  refine (h a _ read).imp_right ?_
  rintro ⟨r, is, shorter, again⟩
  exact ⟨r, is, shorter, fun z stops => by simp [again z stops]⟩

theorem Settles.filterMap (h : Settles f cs) (φ : α → Option β) :
    Settles (fun xs => (f xs).bind fun (a, after) => (φ a).map (·, after)) cs := by
  intro b rest read
  obtain ⟨⟨a, rest'⟩, read, made⟩ := Option.bind_eq_some_iff.mp read
  obtain ⟨b', made', same⟩ := Option.map_eq_some_iff.mp made
  cases same
  refine (h a _ read).imp_right ?_
  rintro ⟨r, is, shorter, again⟩
  exact ⟨r, is, shorter, fun z stops => by simp [again z stops, made']⟩

theorem Settles.of_eq (h : Settles g cs') (shorter : cs'.length ≤ cs.length)
    (same : ∀ z, Stops z → f (cs ++ z) = g (cs' ++ z)) : Settles f cs := by
  intro a rest read
  rw [same _ stops_comma] at read
  refine (h a rest read).imp_right ?_
  rintro ⟨r, is, shorter', again⟩
  exact ⟨r, is, Nat.le_trans shorter' shorter, fun z stops => (same z stops).trans (again z stops)⟩

end Settles

theorem takeWhile_stops {p : Char → Bool} (comma : p ',' = false) (space : p ' ' = false)
    {z : List Char} (stops : Stops z) (cs : List Char) : (cs ++ z).takeWhile p = cs.takeWhile p := by
  refine Text.takeWhile_append (fun c there => ?_) cs
  rcases stops c there with rfl | rfl
  · exact comma
  · exact space

theorem length_drop_le (n : Nat) (cs : List Char) : (cs.drop n).length ≤ cs.length := by
  rw [List.length_drop]
  exact Nat.sub_le _ _

/-- A character that ends no token is a part of the text before one that does. -/
theorem append_stops_cons {z : List Char} (stops : Stops z) {r rest : List Char} {c : Char}
    (h : r ++ z = c :: rest) (comma : c ≠ ',') (space : c ≠ ' ') : ∃ r', r = c :: r' ∧ rest = r' ++ z := by
  cases r with
  | nil =>
    rw [List.nil_append] at h
    rcases stops c (by rw [h]; rfl) with rfl | rfl
    · exact absurd rfl comma
    · exact absurd rfl space
  | cons d r' =>
    obtain ⟨rfl, rfl⟩ := List.cons.inj h
    exact ⟨r', rfl, rfl⟩

theorem take_stops {p : Char → Bool} (comma : p ',' = false) (space : p ' ' = false)
    {z : List Char} (stops : Stops z) (n : Nat) (cs : List Char) :
    ((cs ++ z).take n).takeWhile p = (cs.take n).takeWhile p := by
  rw [List.take_append]
  refine takeWhile_stops comma space ?_ _
  intro c mem
  cases h : n - cs.length with
  | zero => simp [h] at mem
  | succ k =>
    rw [h, List.head?_take] at mem
    exact stops c (by simpa using mem)

end Clickstream.Sql.Lexer
