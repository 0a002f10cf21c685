import Clickstream.Proofs.Sql.Lexer.Stop

/-! Numbers, and how their parts end. -/
namespace Clickstream.Sql.Lexer

theorem digit_comma : Char.isDigit ',' = false := rfl

theorem digit_space : Char.isDigit ' ' = false := rfl

theorem exponent_stops {z : List Char} (stops : Stops z) (cs : List Char) :
    exponent (cs ++ z) = exponent cs := by
  cases cs with
  | nil =>
    cases z with
    | nil => rfl
    | cons c z => rcases stops c rfl with rfl | rfl <;> rfl
  | cons c cs =>
    match cs with
    | [] =>
      cases z with
      | nil => rfl
      | cons d z =>
        rcases stops d rfl with rfl | rfl
        · simp [exponent]
        · simp [exponent]
    | d :: cs =>
      have digits := takeWhile_stops digit_comma digit_space stops
      by_cases plus : d = '+'
      · subst plus
        simp only [exponent, List.cons_append, digits cs]
      by_cases minus : d = '-'
      · subst minus
        simp only [exponent, List.cons_append, digits cs]
      · have same : (d :: (cs ++ z)).takeWhile Char.isDigit = (d :: cs).takeWhile Char.isDigit :=
          digits (d :: cs)
        simp only [exponent, List.cons_append, List.cons.injEq, plus, minus, false_and, same, imp_self,
          implies_true]

theorem exponent_length (cs : List Char) : (exponent cs).length ≤ cs.length := by
  have taken (c : Char) (sign digits : List Char) :
      (if (digits.takeWhile Char.isDigit).isEmpty then []
        else c :: sign ++ digits.takeWhile Char.isDigit).length ≤ 1 + sign.length + digits.length := by
    have := (List.takeWhile_sublist Char.isDigit (l := digits)).length_le
    split
    · exact Nat.zero_le _
    · simp only [List.cons_append, List.length_cons, List.length_append]
      omega
  unfold exponent
  split
  · rename_i c rest
    split
    · dsimp only
      split
      · exact Nat.le_trans (taken c ['+'] _) (by simp; omega)
      · exact Nat.le_trans (taken c ['-'] _) (by simp; omega)
      · exact Nat.le_trans (taken c [] _) (by simp; omega)
    · exact Nat.zero_le _
  · exact Nat.zero_le _

/-- The end of a number, after its exponent. -/
def numberEnd (text : List Char) : List Char → Step
  | 'L' :: rest => some (some (.number (String.ofList text) true), rest)
  | rest => some (some (.number (String.ofList text) false), rest)

/-- A number after its point, if it has one. -/
def numberAfter (whole point rest : List Char) : Step :=
  let fraction := rest.takeWhile Char.isDigit
  let rest := rest.drop fraction.length
  if whole.isEmpty && fraction.isEmpty then some (some (.mark "."), rest)
  else numberEnd (whole ++ point ++ fraction ++ exponent rest) (rest.drop (exponent rest).length)

theorem numberEnd_plain (text : List Char) {rest : List Char} (plain : ∀ r, rest ≠ 'L' :: r) :
    numberEnd text rest = some (some (.number (String.ofList text) false), rest) := by
  unfold numberEnd
  split
  · exact absurd rfl (plain _)
  · rfl

theorem numberEnd_settles (text cs : List Char) : Settles (numberEnd text) cs := by
  by_cases long : ∃ r, cs = 'L' :: r
  · obtain ⟨r, rfl⟩ := long
    exact .done _ r (Nat.le_succ _) fun z stops => rfl
  · refine .done (some (.number (String.ofList text) false)) cs (Nat.le_refl _) fun z stops => ?_
    refine numberEnd_plain text fun r is => ?_
    obtain ⟨r', is, -⟩ := append_stops_cons stops is (by decide) (by decide)
    exact long ⟨r', is⟩

theorem numberAfter_settles (whole point cs : List Char) : Settles (numberAfter whole point) cs := by
  let fraction := cs.takeWhile Char.isDigit
  let rest := cs.drop fraction.length
  have same : ∀ z, Stops z → numberAfter whole point (cs ++ z) =
      if whole.isEmpty && fraction.isEmpty then some (some (.mark "."), rest ++ z)
      else numberEnd (whole ++ point ++ fraction ++ exponent rest)
        (rest.drop (exponent rest).length ++ z) := by
    intro z stops
    simp only [numberAfter, takeWhile_stops digit_comma digit_space stops, Text.drop_takeWhile,
      exponent_stops stops, List.drop_append_of_le_length (exponent_length _)]
    rfl
  by_cases empty : (whole.isEmpty && fraction.isEmpty) = true
  · refine .done (some (.mark ".")) rest (length_drop_le _ cs) fun z stops => ?_
    rw [same z stops, if_pos empty]
  · refine (numberEnd_settles (whole ++ point ++ fraction ++ exponent rest)
      (rest.drop (exponent rest).length)).of_eq ?_ fun z stops => ?_
    · exact Nat.le_trans (length_drop_le _ rest) (length_drop_le _ cs)
    · rw [same z stops, if_neg empty]

theorem numberEnd_eq (text rest : List Char) :
    (match (match rest with
      | 'L' :: rest => (true, rest)
      | _ => (false, rest) : Bool × List Char) with
    | (long, rest) => some (some (Token.number (String.ofList text) long), rest)) =
      numberEnd text rest := by
  cases rest with
  | nil => rfl
  | cons c rest =>
    by_cases long : c = 'L'
    · subst long
      rfl
    · simp [numberEnd, long]

/-- A number from its whole part on, with a point after it. -/
theorem number_pointed {cs whole rest : List Char} (is : cs.takeWhile Char.isDigit = whole)
    (after : cs.drop whole.length = '.' :: rest) : number cs = numberAfter whole ['.'] rest := by
  unfold number numberAfter
  simp only [is, after]
  split
  · rename_i same
    cases same
  · split
    · rfl
    · exact numberEnd_eq _ _

/-- A number from its whole part on, with none. -/
theorem number_whole {cs whole rest : List Char} (is : cs.takeWhile Char.isDigit = whole)
    (after : cs.drop whole.length = rest) (pointless : ∀ r, rest ≠ '.' :: r)
    (decimal : ∀ r, whole = ['0'] → rest ≠ 'x' :: r) : number cs = numberAfter whole [] rest := by
  unfold number numberAfter
  simp only [is, after]
  split
  · rfl
  · exact numberEnd_eq _ _

/-- A hexadecimal number, which is a string to what reads it. -/
theorem number_hexadecimal {cs whole rest : List Char} (is : cs.takeWhile Char.isDigit = whole)
    (after : cs.drop whole.length = 'x' :: rest) (zero : whole = ['0']) :
    number cs = some (some (.string .hexadecimal (String.ofList
        (rest.takeWhile fun c => (hexDigit? c).isSome))),
      rest.drop (rest.takeWhile fun c => (hexDigit? c).isSome).length) := by
  subst zero
  unfold number
  simp only [is, after]

theorem number_settles (c : Char) (cs : List Char) (starts : c.isDigit = true ∨ c = '.') :
    Settles (fun xs => number (c :: xs)) cs := by
  have whole : ∀ z, Stops z → (c :: (cs ++ z)).takeWhile Char.isDigit =
      (c :: cs).takeWhile Char.isDigit :=
    fun z stops => takeWhile_stops digit_comma digit_space stops (c :: cs)
  have after : ∀ z, (c :: (cs ++ z)).drop ((c :: cs).takeWhile Char.isDigit).length =
      (c :: cs).drop ((c :: cs).takeWhile Char.isDigit).length ++ z :=
    fun z => Text.drop_takeWhile Char.isDigit (c :: cs) z
  rcases starts with digit | rfl
  · have is : (c :: cs).takeWhile Char.isDigit = c :: cs.takeWhile Char.isDigit := by simp [digit]
    rw [is] at whole after
    have shorter := length_drop_le (cs.takeWhile Char.isDigit).length cs
    rw [List.length_cons, List.drop_succ_cons] at after
    generalize cs.drop (cs.takeWhile Char.isDigit).length = rest at after shorter
    by_cases hex : c :: cs.takeWhile Char.isDigit = ['0'] ∧ ∃ r, rest = 'x' :: r
    · obtain ⟨zero, r, rfl⟩ := hex
      have comma : (hexDigit? ',').isSome = false := rfl
      have space : (hexDigit? ' ').isSome = false := rfl
      refine .done (some (.string .hexadecimal (String.ofList
        (r.takeWhile fun c => (hexDigit? c).isSome))))
        (r.drop (r.takeWhile fun c => (hexDigit? c).isSome).length)
        (Nat.le_trans (length_drop_le _ r) (Nat.le_of_succ_le shorter)) fun z stops => ?_
      have read := number_hexadecimal (whole z stops) (after z) zero
      rw [List.append_eq, takeWhile_stops (p := fun c => (hexDigit? c).isSome) comma space stops,
        Text.drop_takeWhile] at read
      exact read
    · by_cases point : ∃ r, rest = '.' :: r
      · obtain ⟨r, rfl⟩ := point
        exact (numberAfter_settles (c :: cs.takeWhile Char.isDigit) ['.'] r).of_eq
          (Nat.le_of_succ_le shorter) fun z stops => number_pointed (whole z stops) (after z)
      · refine (numberAfter_settles (c :: cs.takeWhile Char.isDigit) [] rest).of_eq shorter
          fun z stops => number_whole (whole z stops) (after z) ?_ ?_
        · intro r is
          obtain ⟨r', same, -⟩ := append_stops_cons stops is (by decide) (by decide)
          exact point ⟨r', same⟩
        · intro r zero is
          obtain ⟨r', same, -⟩ := append_stops_cons stops is (by decide) (by decide)
          exact hex ⟨zero, r', same⟩
  · exact (numberAfter_settles [] ['.'] cs).of_eq (Nat.le_refl _) fun z stops =>
      number_pointed rfl rfl

/-- Digits before a text that ends a token. -/
theorem number_digits {d : Char} {ds z : List Char} (digits : ∀ c ∈ d :: ds, c.isDigit = true)
    (stops : Stops z) : number (d :: ds ++ z) = some (some (.number (String.ofList (d :: ds)) false), z) := by
  have none_ : z.takeWhile Char.isDigit = [] := takeWhile_stops digit_comma digit_space stops []
  have whole : (d :: ds ++ z).takeWhile Char.isDigit = d :: ds := by
    rw [List.takeWhile_append_of_pos digits, none_, List.append_nil]
  have no : exponent z = [] := exponent_stops stops []
  have other {c : Char} (comma : c ≠ ',') (space : c ≠ ' ') (r : List Char) : z ≠ c :: r := fun is => by
    obtain ⟨r', is, -⟩ := append_stops_cons stops (r := []) is comma space
    cases is
  rw [number_whole whole List.drop_left (other (by decide) (by decide))
    fun r _ => other (by decide) (by decide) r, numberAfter]
  simp only [none_, no, List.length_nil, List.drop_zero, List.isEmpty_cons, Bool.false_and,
    Bool.false_eq_true, ↓reduceIte, List.append_nil]
  exact numberEnd_plain _ (other (by decide) (by decide))

theorem number_not_comma (cs rest : List Char) : number cs ≠ some (some (.mark ","), rest) := by
  unfold number
  dsimp only
  split
  · simp
  · split <;> split <;> simp

end Clickstream.Sql.Lexer
