import Clickstream.Proofs.Sql.Lexer.Stop

/-! What a dollar begins: quoted strings, tagged strings and placeholders. -/
namespace Clickstream.Sql.Lexer

theorem untilDollars_settles : ∀ cs, Settles untilDollars cs
  | [] => .stuck rfl
  | ['$'] => .stuck rfl
  | '$' :: '$' :: cs => .done [] cs (by simp; omega) fun z _ => rfl
  | c :: d :: cs => by
    by_cases dollars : c = '$' ∧ d = '$'
    · obtain ⟨rfl, rfl⟩ := dollars
      exact .done [] cs (by simp; omega) fun z _ => rfl
    · exact ((untilDollars_settles (d :: cs)).map (c :: ·)).of_eq (by simp) fun z _ => by
        rw [List.cons_append, List.cons_append, untilDollars]
        exact fun rest is same => dollars ⟨is, (List.cons.inj same).1⟩
  | [c] => .stuck (by simp [untilDollars])

/-- How the closing tag is looked for after a dollar. -/
def afterTagDollar (tag : List Char) (fuel : Nat) (rest : List Char) : Option (List Char) :=
  let after := rest.drop (tagMatch tag rest).2
  if (tagMatch tag rest).1 then
    match after with
    | '$' :: after => some after
    | _ => afterTag tag fuel after
  else afterTag tag fuel after

theorem afterTag_succ (tag : List Char) (fuel : Nat) (cs : List Char) :
    afterTag tag (fuel + 1) cs = match cs.dropWhile (· != '$') with
      | [] => none
      | _ :: rest => afterTagDollar tag fuel rest := by
  rw [afterTag]
  cases cs.dropWhile (· != '$') with
  | nil => rfl
  | cons d rest => rfl

/-- Fuel beyond the text changes nothing. -/
theorem afterTag_fuel (tag : List Char) : ∀ {fuel fuel' : Nat} {cs : List Char}, cs.length < fuel →
    cs.length < fuel' → afterTag tag fuel cs = afterTag tag fuel' cs
  | 0, _, _, enough, _ => absurd enough (Nat.not_lt_zero _)
  | _ + 1, 0, _, _, enough => absurd enough (Nat.not_lt_zero _)
  | fuel + 1, fuel' + 1, cs, enough, enough' => by
    rw [afterTag_succ, afterTag_succ]
    have shorter := (List.dropWhile_sublist (l := cs) (· != '$')).length_le
    cases dropped : cs.dropWhile (· != '$') with
    | nil => rfl
    | cons d rest =>
      rw [dropped, List.length_cons] at shorter
      have again (count : Nat) : afterTag tag fuel (rest.drop count) =
          afterTag tag fuel' (rest.drop count) := by
        have := length_drop_le count rest
        exact afterTag_fuel tag (by omega) (by omega)
      simp only [afterTagDollar, again]

/-- A tag is compared within the text, or it is compared with the comma after the text and differs. -/
theorem tagMatch_comma : ∀ {tag : List Char}, ',' ∉ tag → ∀ cs : List Char,
    ((tagMatch tag cs).2 ≤ cs.length ∧ ∀ z, tagMatch tag (cs ++ z) = tagMatch tag cs) ∨
      tagMatch tag (cs ++ [',']) = (false, cs.length + 1)
  | [], _, cs => .inl ⟨Nat.zero_le _, fun z => by simp [tagMatch]⟩
  | t :: tag, comma, [] => .inr (by simp [tagMatch, Ne.symm (List.ne_of_not_mem_cons comma)])
  | t :: tag, comma, c :: cs => by
    by_cases same : t = c
    · rcases tagMatch_comma (List.not_mem_of_not_mem_cons comma) cs with ⟨shorter, again⟩ | differs
      · exact .inl ⟨by simp [tagMatch, same, shorter], fun z => by simp [tagMatch, same, again z]⟩
      · exact .inr (by simp [tagMatch, same, differs])
    · exact .inl ⟨by simp [tagMatch, same], fun z => by simp [tagMatch, same]⟩

theorem afterTag_settles {tag : List Char} (comma : ',' ∉ tag) (cs : List Char) :
    Settles (fun xs => (afterTag tag (xs.length + 1) xs).map fun after => ((), after)) cs := by
  have later (xs : List Char) (fuel : Nat) (enough : xs.length < fuel) :
      afterTag tag fuel xs = afterTag tag (xs.length + 1) xs :=
    afterTag_fuel tag enough (Nat.lt_succ_self _)
  have dropped (z : List Char) : (cs ++ z).dropWhile (· != '$') =
      if (cs.dropWhile (· != '$')).isEmpty then z.dropWhile (· != '$')
      else cs.dropWhile (· != '$') ++ z := List.dropWhile_append
  have shorter := (List.dropWhile_sublist (l := cs) (· != '$')).length_le
  cases found : cs.dropWhile (· != '$') with
  | nil =>
    refine .stuck ?_
    rw [afterTag_succ, dropped, found]
    rfl
  | cons d rest =>
    rw [found, List.length_cons] at shorter
    rcases tagMatch_comma comma rest with ⟨within, same⟩ | differs
    · have after (z : List Char) : (rest ++ z).drop (tagMatch tag rest).2 =
          rest.drop (tagMatch tag rest).2 ++ z := List.drop_append_of_le_length within
      have shorter' := length_drop_le (tagMatch tag rest).2 rest
      have ends (z : List Char) : afterTag tag ((cs ++ z).length + 1) (cs ++ z) =
          afterTagDollar tag (cs ++ z).length (rest ++ z) := by
        rw [afterTag_succ, dropped, found]
        rfl
      by_cases closes : (tagMatch tag rest).1 = true ∧
          ∃ r, rest.drop (tagMatch tag rest).2 = '$' :: r
      · obtain ⟨all, r, is⟩ := closes
        rw [is, List.length_cons] at shorter'
        refine .done () r (by omega) fun z _ => ?_
        rw [ends, afterTagDollar]
        simp only [same z, all, ↓reduceIte, after z, is, List.cons_append, Option.map_some]
      · have fewer : (rest.drop (tagMatch tag rest).2).length < cs.length := by omega
        refine (afterTag_settles comma (rest.drop (tagMatch tag rest).2)).of_eq (Nat.le_of_lt fewer)
          fun z stops => congrArg (Option.map fun after => ((), after)) ?_
        rw [ends, ← later (rest.drop (tagMatch tag rest).2 ++ z) (cs ++ z).length (by simp; omega),
          afterTagDollar]
        simp only [same z, after z]
        split
        · rename_i all
          split
          · rename_i is
            obtain ⟨r, is, -⟩ := append_stops_cons stops is (by decide) (by decide)
            exact absurd ⟨all, r, is⟩ closes
          · rfl
        · rfl
    · refine .stuck ?_
      have gone : (rest ++ [',']).drop (rest.length + 1) = [] := by simp
      rw [afterTag_succ, dropped, found]
      simp only [List.isEmpty_cons, Bool.false_eq_true, ↓reduceIte, List.cons_append, afterTagDollar,
        differs, gone, later [] (cs ++ [',']).length (by simp)]
      rfl
termination_by cs.length
decreasing_by exact fewer

def isTagPart (c : Char) : Bool := Text.isLetterOrNumber c || c == '_'

/-- A dollar before a tag and another dollar begins a tagged string. -/
theorem dollar_tagged {cs tag body : List Char} (single : ∀ r, cs ≠ '$' :: r)
    (is : cs.takeWhile isTagPart = tag) (after : cs.drop tag.length = '$' :: body) :
    dollar cs = (afterTag tag (body.length + 1) body).map fun after =>
      (some (.string .dollar (String.ofList (body.take (body.length - after.length)))), after) := by
  subst is
  unfold dollar
  split
  · exact absurd rfl (single _)
  · change (match cs.drop (cs.takeWhile isTagPart).length with
      | '$' :: body => _
      | after => _) = _
    rw [after]
    rfl

/-- A dollar before a tag and no other dollar begins a placeholder. -/
theorem dollar_placeholder {cs tag rest : List Char} (single : ∀ r, cs ≠ '$' :: r)
    (is : cs.takeWhile isTagPart = tag) (after : cs.drop tag.length = rest)
    (plain : ∀ r, rest ≠ '$' :: r) :
    dollar cs = some (some (.placeholder (String.ofList ('$' :: tag))), rest) := by
  subst is
  unfold dollar
  split
  · exact absurd rfl (single _)
  · change (match cs.drop (cs.takeWhile isTagPart).length with
      | '$' :: body => _
      | after => _) = _
    rw [after]
    split
    · exact absurd rfl (plain _)
    · rfl

/-- A tagged string is the text up to its closing tag, whatever follows it. -/
theorem tagged_settles {tag : List Char} (comma : ',' ∉ tag) (body : List Char) : Settles (fun xs =>
    (afterTag tag (xs.length + 1) xs).map fun after =>
      (some (Token.string .dollar (String.ofList (xs.take (xs.length - after.length)))), after)) body := by
  intro token rest is
  obtain ⟨left, found, same⟩ := Option.map_eq_some_iff.mp is
  cases same
  refine (afterTag_settles comma body () rest
    (Option.map_eq_some_iff.mpr ⟨rest, found, rfl⟩)).imp_right ?_
  rintro ⟨r, rfl, fewer, again⟩
  have text (z : List Char) : (body ++ z).take ((body ++ z).length - (r ++ z).length) =
      body.take (body.length - r.length) := by
    rw [List.length_append, List.length_append, Nat.add_sub_add_right]
    exact List.take_append_of_le_length (Nat.sub_le _ _)
  refine ⟨r, rfl, fewer, fun z stops => ?_⟩
  obtain ⟨left, found', same⟩ := Option.map_eq_some_iff.mp (again z stops)
  cases same
  simp only [found', Option.map_some, text]

theorem dollar_settles (cs : List Char) : Settles dollar cs := by
  by_cases doubled : ∃ r, cs = '$' :: r
  · obtain ⟨r, rfl⟩ := doubled
    exact ((untilDollars_settles r).map fun s => some (.string .dollar (String.ofList s))).of_eq
      (Nat.le_succ _) fun z _ => rfl
  have comma : isTagPart ',' = false := by decide +kernel
  have space : isTagPart ' ' = false := by decide +kernel
  have single : ∀ z, Stops z → ∀ r, cs ++ z ≠ '$' :: r := by
    intro z stops r is
    obtain ⟨r', is, -⟩ := append_stops_cons stops is (by decide) (by decide)
    exact doubled ⟨r', is⟩
  have tag : ∀ z, Stops z → (cs ++ z).takeWhile isTagPart = cs.takeWhile isTagPart :=
    fun z stops => takeWhile_stops comma space stops cs
  have after := Text.drop_takeWhile isTagPart cs
  have shorter := length_drop_le (cs.takeWhile isTagPart).length cs
  generalize cs.drop (cs.takeWhile isTagPart).length = rest at after shorter
  by_cases tagged : ∃ body, rest = '$' :: body
  · obtain ⟨body, rfl⟩ := tagged
    have plain : ',' ∉ cs.takeWhile isTagPart := fun mem => by
      have := List.all_eq_true.mp List.all_takeWhile ',' mem
      rw [comma] at this
      cases this
    rw [List.length_cons] at shorter
    exact (tagged_settles plain body).of_eq (Nat.le_of_succ_le shorter) fun z stops =>
      dollar_tagged (single z stops) (tag z stops) (after z)
  · refine .done (some (.placeholder (String.ofList ('$' :: cs.takeWhile isTagPart)))) rest shorter
      fun z stops => dollar_placeholder (single z stops) (tag z stops) (after z) ?_
    intro r is
    obtain ⟨r', is, -⟩ := append_stops_cons stops is (by decide) (by decide)
    exact tagged ⟨r', is⟩

theorem dollar_not_comma (cs rest : List Char) : dollar cs ≠ some (some (.mark ","), rest) := by
  unfold dollar
  split
  · simp
  · dsimp only
    split <;> simp

end Clickstream.Sql.Lexer
