import Clickstream.Proofs.Json.Passing

/-! Numbers are read alike whatever follows them, if it does not go on with a number. -/
namespace Clickstream.Json.Reading

/-- What is read, and what is left, does not change by what follows where a number ends. -/
def Framed {α : Type} (r : Reading α) : Prop :=
  ∀ s a s' rest, Apart rest → r s = .ok (a, s') → r (s ++ rest) = .ok (a, s' ++ rest)

section Digits
variable {rest : List Char}

theorem fill_append (stops : ∀ c, rest.head? = some c → c.isDigit = false) (s : List Char) (significand : Nat) :
    fill significand (s ++ rest) =
      ((fill significand s).1, (fill significand s).2.1, (fill significand s).2.2 ++ rest) := by
  induction s generalizing significand with
  | nil =>
    cases rest with
    | nil => rfl
    | cons c rest => simp [fill, stops c rfl]
  | cons d s ih =>
    rw [List.cons_append, fill, fill]
    simp only
    split
    · rw [ih]
    · rfl

end Digits

theorem pure_framed {α : Type} (a : α) : Framed (pure a : Reading α) := by
  rintro s _ _ rest _ ⟨⟩
  rfl

theorem Framed.map {α β : Type} {r : Reading α} (framed : Framed r) (f : α → β) :
    Framed (do return f (← r)) := by
  intro s b s' rest apart read
  obtain ⟨⟨a, t⟩, here, after⟩ := bind_eq_ok.mp read
  cases after
  exact bind_of_ok (framed s a _ rest apart here)

theorem float_framed (negative : Bool) (significand : Nat) (exponent : Int) :
    Framed (float negative significand exponent) := by
  intro s a s' rest _ read
  unfold float at read ⊢
  cases scaled : scaleTen (.ofNat significand) exponent with
  | none =>
    simp only [scaled] at read
    cases read
  | some x =>
    simp only [scaled] at read ⊢
    cases read
    rfl

private theorem signed_append {s : List Char} (nonempty : s ≠ []) (rest : List Char) :
    signed (s ++ rest) = ((signed s).1, (signed s).2 ++ rest) := by
  obtain ⟨c, s, rfl⟩ := List.exists_cons_of_ne_nil nonempty
  by_cases minus : c = '-'
  · subst minus
    rfl
  · by_cases plus : c = '+'
    · subst plus
      rfl
    · simp [signed, minus, plus]

theorem exponent_framed (negative : Bool) (significand : Nat) (before : Int) :
    Framed (exponent negative significand before) := by
  intro s a s' rest apart read
  have stops : ∀ c, rest.head? = some c → c.isDigit = false := fun c there => (apart c there).1
  unfold exponent at read ⊢
  rw [bind_of_ok (get_run _)] at read ⊢
  rcases eq_or_ne s [] with rfl | nonempty
  · cases read
  rw [signed_append nonempty]
  generalize signed s = parts at read ⊢
  obtain ⟨down, ahead⟩ := parts
  cases ahead with
  | nil => cases read
  | cons d ds =>
    simp only at read ⊢
    rw [Text.takeWhile_append stops]
    rw [Text.drop_takeWhile]
    generalize (d :: ds).takeWhile Char.isDigit = digits at read ⊢
    rw [List.cons_append]
    by_cases none_ : digits.isEmpty = true
    · rw [if_pos none_] at read
      cases read
    · simp only [if_neg none_] at read ⊢
      rw [bind_of_ok (set_run _ _)] at read ⊢
      split at read
      · rename_i small
        rw [if_pos small]
        exact float_framed _ _ _ _ _ _ _ apart read
      · rename_i large
        rw [if_neg large]
        split at read
        · cases read
        · rename_i vanishes
          rw [if_neg vanishes]
          exact pure_framed _ _ _ _ _ apart read

private theorem tail_other {s : List Char} (other : ∀ c, s.head? = some c → c ≠ 'e' ∧ c ≠ 'E')
    (negative : Bool) (significand : Nat) (before : Int) :
    tail negative significand before s = float negative significand before s := by
  unfold tail
  rw [bind_of_ok (get_run _)]
  split
  · exact absurd rfl (other 'e' rfl).1
  · exact absurd rfl (other 'E' rfl).2
  · rfl

private theorem head_append {P : Char → Prop} {s rest : List Char} (here : ∀ c, s.head? = some c → P c)
    (later : ∀ c, rest.head? = some c → P c) : ∀ c, (s ++ rest).head? = some c → P c := by
  cases s with
  | nil => exact later
  | cons d s => exact here

theorem tail_framed (negative : Bool) (significand : Nat) (before : Int) :
    Framed (tail negative significand before) := by
  intro s a s' rest apart read
  by_cases other : ∀ c, s.head? = some c → c ≠ 'e' ∧ c ≠ 'E'
  · rw [tail_other other] at read
    rw [tail_other (head_append other fun c there => (apart c there).2.2)]
    exact float_framed _ _ _ _ _ _ _ apart read
  · obtain ⟨c, s, rfl⟩ : ∃ c t, s = c :: t := List.exists_cons_of_ne_nil (by rintro rfl; simp at other)
    simp only [List.head?_cons, Option.some.injEq, forall_eq', not_and_or, not_not] at other
    rcases other with rfl | rfl <;> exact exponent_framed _ _ _ _ _ _ _ apart read

theorem decimals_framed (negative : Bool) (significand : Nat) (before : Int) :
    Framed (decimals negative significand before) := by
  intro s a s' rest apart read
  have stops : ∀ c, rest.head? = some c → c.isDigit = false := fun c there => (apart c there).1
  unfold decimals at read ⊢
  rw [bind_of_ok (get_run _)] at read ⊢
  rw [fill_append stops]
  generalize fill significand s = filled at read ⊢
  obtain ⟨filled, count, ahead⟩ := filled
  simp only at read ⊢
  rw [Text.takeWhile_append stops, Text.drop_takeWhile]
  generalize ahead.takeWhile Char.isDigit = dropped at read ⊢
  by_cases none_ : count = 0 ∧ dropped.isEmpty = true
  · rw [if_pos none_] at read
    cases read
  · simp only [if_neg none_] at read ⊢
    exact tail_framed _ _ _ _ _ _ _ apart read

/-- A whole number, or a float where digits were left out. -/
def whole (negative : Bool) (significand before : Nat) : Reading Number :=
  if before ≠ 0 then float negative significand before
  else if !negative then return .whole significand
  else if significand = 0 ∨ 1 <<< 63 < significand then
    return .fractional (Binary64.ofNat significand).neg
  else return .whole (-(significand : Int))

theorem whole_framed (negative : Bool) (significand before : Nat) :
    Framed (whole negative significand before) := by
  unfold whole
  split
  · exact float_framed _ _ _
  · split
    · exact pure_framed _
    · split <;> exact pure_framed _

private theorem afterWhole_other {s : List Char}
    (other : ∀ c, s.head? = some c → c ≠ '.' ∧ c ≠ 'e' ∧ c ≠ 'E') (negative : Bool)
    (significand before : Nat) :
    afterWhole negative significand before s = whole negative significand before s := by
  unfold afterWhole
  rw [bind_of_ok (get_run _)]
  split
  · exact absurd rfl (other '.' rfl).1
  · exact absurd rfl (other 'e' rfl).2.1
  · exact absurd rfl (other 'E' rfl).2.2
  · rfl

theorem afterWhole_framed (negative : Bool) (significand before : Nat) :
    Framed (afterWhole negative significand before) := by
  intro s a s' rest apart read
  by_cases other : ∀ c, s.head? = some c → c ≠ '.' ∧ c ≠ 'e' ∧ c ≠ 'E'
  · rw [afterWhole_other other] at read
    rw [afterWhole_other (head_append other fun c there => (apart c there).2)]
    exact whole_framed _ _ _ _ _ _ _ apart read
  · obtain ⟨c, s, rfl⟩ : ∃ c t, s = c :: t := List.exists_cons_of_ne_nil (by rintro rfl; simp at other)
    simp only [List.head?_cons, Option.some.injEq, forall_eq', not_and_or, not_not] at other
    rcases other with rfl | rfl | rfl
    · exact decimals_framed _ _ _ _ _ _ _ apart read
    · exact exponent_framed _ _ _ _ _ _ _ apart read
    · exact exponent_framed _ _ _ _ _ _ _ apart read

private theorem number_zero (negative : Bool) (s : List Char) :
    number negative ('0' :: s) =
      if s.head?.any Char.isDigit then .error .syntactic else afterWhole negative 0 0 s := by
  unfold number
  rw [bind_of_ok (get_run _)]
  simp only
  rw [bind_of_ok (set_run _ _)]
  split <;> rfl

private theorem number_other {c : Char} (nonzero : c ≠ '0') (negative : Bool) (s : List Char) :
    number negative (c :: s) =
      if c.isDigit then
        let dropped := (fill (digitValue c) s).2.2.takeWhile Char.isDigit
        afterWhole negative (fill (digitValue c) s).1 dropped.length
          ((fill (digitValue c) s).2.2.drop dropped.length)
      else .error .syntactic := by
  unfold number
  rw [bind_of_ok (get_run _)]
  generalize same : c :: s = t
  split
  · cases same
  · exact absurd (List.cons.inj same).1 nonzero
  · obtain ⟨rfl, rfl⟩ := List.cons.inj same
    by_cases digit : c.isDigit = true
    · simp only [digit, Bool.not_true, Bool.false_eq_true, ↓reduceIte]
      rfl
    · simp only [digit, Bool.not_false, Bool.false_eq_true, ↓reduceIte]
      rfl

theorem number_framed (negative : Bool) : Framed (number negative) := by
  intro s a s' rest apart read
  have stops : ∀ c, rest.head? = some c → c.isDigit = false := fun c there => (apart c there).1
  cases s with
  | nil => cases read
  | cons c s =>
    rw [List.cons_append]
    by_cases zero : c = '0'
    · subst zero
      rw [number_zero] at read ⊢
      split at read
      · cases read
      · rename_i other
        have other_ : (s ++ rest).head?.any Char.isDigit = false := by
          cases s with
          | nil =>
            cases rest with
            | nil => rfl
            | cons d rest => exact stops d rfl
          | cons d s => simpa using other
        rw [other_]
        exact afterWhole_framed _ _ _ _ _ _ _ apart read
    · rw [number_other zero] at read ⊢
      split at read
      · rename_i digit
        rw [if_pos digit, fill_append stops]
        simp only
        rw [Text.takeWhile_append stops, Text.drop_takeWhile]
        exact afterWhole_framed _ _ _ _ _ _ _ apart read
      · cases read

private theorem numeric_minus (expected : String) (s : List Char) :
    numeric expected ('-' :: s) = (do return (← number true).toBinary64) s := by
  rw [numeric, ahead_run rfl]
  rfl

private theorem numeric_digit (expected : String) {c : Char} (digit : c.isDigit = true) (s : List Char) :
    numeric expected (c :: s) = (do return (← number false).toBinary64) (c :: s) := by
  rw [numeric, ahead_run (blank_of_isDigit digit)]
  generalize ahead : some c = first
  split
  · cases ahead
  · cases ahead
    cases digit
  · cases ahead
    rw [if_pos digit]

/-- A number that is read to the end of its text is read alike before whatever ends it. -/
theorem numeric_append {expected : String} {c : Char} {cs rest : List Char} {x : Binary64}
    (starts : c = '-' ∨ c.isDigit = true) (read : numeric expected (c :: cs) = .ok (x, []))
    (apart : Apart rest) : numeric expected (c :: cs ++ rest) = .ok (x, rest) := by
  rcases starts with rfl | digit
  · rw [numeric_minus] at read
    rw [List.cons_append, numeric_minus]
    exact (number_framed true).map _ cs x [] rest apart read
  · rw [numeric_digit expected digit] at read
    rw [List.cons_append, numeric_digit expected digit]
    exact (number_framed false).map _ (c :: cs) x [] rest apart read

end Clickstream.Json.Reading
