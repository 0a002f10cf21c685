import Clickstream.Proofs.Sql.Lexer.Stop

/-! Words, operators and marks. -/
namespace Clickstream.Sql.Lexer

private theorem separators_apart : (isNamePart ',' = false ∧ isNamePart ' ' = false) ∧
    (isOperatorPart ',' = false ∧ isOperatorPart ' ' = false) ∧ "," ∉ openOperators ∧
    ∀ text ∈ openOperators ++ closedMarks,
      0 < text.length ∧ ',' ∉ text.toList.tail ∧ ' ' ∉ text.toList.tail := by
  decide +kernel

theorem word_settles (c : Char) (cs : List Char) : Settles (fun xs => word (c :: xs)) cs := by
  obtain ⟨comma, space⟩ := separators_apart.1
  let name := String.ofList (c :: cs.takeWhile isNamePart)
  refine .done (some (.word name (Text.upper name) false)) (cs.drop (cs.takeWhile isNamePart).length)
    (length_drop_le _ cs) fun z stops => ?_
  simp only [word, takeWhile_stops comma space stops, List.length_cons, List.drop_succ_cons,
    Text.drop_takeWhile]
  rfl

/-- A mark stands before a text that ends a token exactly if it stands there without it. -/
theorem isPrefixOf_stops {z : List Char} (stops : Stops z) :
    ∀ {text : List Char}, ',' ∉ text → ' ' ∉ text → ∀ cs, text.isPrefixOf (cs ++ z) = text.isPrefixOf cs
  | [], _, _, cs => by simp
  | t :: text, comma, space, [] => by
    cases z with
    | nil => rfl
    | cons c z =>
      simp only [List.mem_cons, not_or] at comma space
      rcases stops c rfl with rfl | rfl
      · simp [List.isPrefixOf, Ne.symm comma.1]
      · simp [List.isPrefixOf, Ne.symm space.1]
  | t :: text, comma, space, c :: cs => by
    simp only [List.mem_cons, not_or] at comma space
    simp only [List.cons_append, List.isPrefixOf, isPrefixOf_stops stops comma.2 space.2 cs]

theorem isAhead_stops {z : List Char} (stops : Stops z) {text : String}
    (plain : ',' ∉ text.toList.tail ∧ ' ' ∉ text.toList.tail) (c : Char) (cs : List Char) :
    text.toList.isPrefixOf (c :: cs ++ z) = text.toList.isPrefixOf (c :: cs) := by
  cases h : text.toList with
  | nil => simp
  | cons t rest =>
    rw [h, List.tail_cons] at plain
    simp only [List.cons_append, List.isPrefixOf, isPrefixOf_stops stops plain.1 plain.2 cs]

theorem find?_congr {α : Type} {p q : α → Bool} {xs : List α} (h : ∀ x ∈ xs, p x = q x) :
    xs.find? p = xs.find? q := by
  rw [← List.head?_filter, ← List.head?_filter, List.filter_congr h]

/-- A mark found ahead takes a part of the text, but not nothing. -/
theorem found_drop {texts : List String} (written : ∀ text ∈ texts, 0 < text.length) {text : String}
    {c : Char} {cs : List Char}
    (found : texts.find? (fun text => text.toList.isPrefixOf (c :: cs)) = some text) :
    ∃ r : List Char, r.length ≤ cs.length ∧ ∀ z, (c :: cs ++ z).drop text.length = r ++ z := by
  have isAhead : text.toList.isPrefixOf (c :: cs) = true :=
    List.find?_some (p := fun text : String => text.toList.isPrefixOf (c :: cs)) found
  have ahead := (List.isPrefixOf_iff_prefix.mp isAhead).length_le
  rw [String.length_toList] at ahead
  have some_ := written text (List.mem_of_find?_eq_some found)
  refine ⟨(c :: cs).drop text.length, ?_, fun z => List.drop_append_of_le_length ahead⟩
  simp only [List.length_drop, List.length_cons]
  omega

theorem mark_settles (c : Char) (cs : List Char) : Settles (fun xs => mark (c :: xs)) cs := by
  obtain ⟨-, ⟨comma, space⟩, -, written⟩ := separators_apart
  have open_ := fun text mem => written text (List.mem_append_left closedMarks mem)
  have closed := fun text mem => written text (List.mem_append_right openOperators mem)
  have opens : ∀ z, Stops z → openOperators.find? (fun text => text.toList.isPrefixOf (c :: cs ++ z)) =
      openOperators.find? fun text => text.toList.isPrefixOf (c :: cs) :=
    fun z stops => find?_congr fun text mem => isAhead_stops stops (open_ text mem).2 c cs
  have closes : ∀ z, Stops z → closedMarks.find? (fun text => text.toList.isPrefixOf (c :: cs ++ z)) =
      closedMarks.find? fun text => text.toList.isPrefixOf (c :: cs) :=
    fun z stops => find?_congr fun text mem => isAhead_stops stops (closed text mem).2 c cs
  cases opening : openOperators.find? fun text => text.toList.isPrefixOf (c :: cs) with
  | some text =>
    obtain ⟨r, shorter, dropped⟩ := found_drop (fun text mem => (open_ text mem).1) opening
    cases more : r.takeWhile isOperatorPart with
    | nil =>
      refine .done (some (.mark text)) r shorter fun z stops => ?_
      simp only [mark, ← List.cons_append, opens z stops, opening, dropped,
        takeWhile_stops comma space stops, more, List.isEmpty_nil, ↓reduceIte]
    | cons m ms =>
      refine .done (some (.custom (text ++ String.ofList (m :: ms)))) (r.drop (m :: ms).length)
        (Nat.le_trans (length_drop_le _ r) shorter) fun z stops => ?_
      have drop := Text.drop_takeWhile isOperatorPart r z
      rw [more] at drop
      simp only [mark, ← List.cons_append, opens z stops, opening, dropped,
        takeWhile_stops comma space stops, more, List.isEmpty_cons, Bool.false_eq_true, ↓reduceIte,
        drop]
  | none =>
    cases closing : closedMarks.find? fun text => text.toList.isPrefixOf (c :: cs) with
    | some text =>
      obtain ⟨r, shorter, dropped⟩ := found_drop (fun text mem => (closed text mem).1) closing
      refine .done (some (.mark text)) r shorter fun z stops => ?_
      simp only [mark, ← List.cons_append, opens z stops, opening, closes z stops, closing, dropped]
    | none =>
      by_cases blank : Text.isBlank c = true
      · refine .done none cs (Nat.le_refl _) fun z stops => ?_
        simp only [mark, ← List.cons_append, opens z stops, opening, closes z stops, closing]
        simp [blank]
      · refine .done (some (.stray c)) cs (Nat.le_refl _) fun z stops => ?_
        simp only [mark, ← List.cons_append, opens z stops, opening, closes z stops, closing]
        simp [blank]

theorem mark_comma {c : Char} {cs rest : List Char} (h : mark (c :: cs) = some (some (.mark ","), rest)) :
    rest = cs := by
  unfold mark at h
  dsimp only at h
  split at h
  · rename_i found
    split at h
    · cases h
      exact absurd (List.mem_of_find?_eq_some found) separators_apart.2.2.1
    · cases h
  · cases h
    rfl
  · split at h <;> cases h
  · cases h

end Clickstream.Sql.Lexer
