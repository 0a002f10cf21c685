import Clickstream.Proofs.Sql.Lexer.Dollar
import Clickstream.Proofs.Sql.Lexer.Mark
import Clickstream.Proofs.Sql.Lexer.Number
import Clickstream.Proofs.Sql.Lexer.Quoted

/-! Texts with more text after them are cut into the tokens of both, where a comma after the text would
be a token of its own. -/
namespace Clickstream.Sql.Lexer

/-- What follows a comment, as a reader of nothing else. -/
theorem afterComment_settles : ∀ depth last cs,
    Settles (fun xs => (afterComment depth last xs).map fun after => ((), after)) cs
  | depth, last, [] => .stuck (by simp [afterComment])
  | depth, last, c :: cs => by
    by_cases opens : last = '/' ∧ c = '*'
    · exact (afterComment_settles (depth + 1) c cs).of_eq (Nat.le_succ _) fun z _ => by
        simp [afterComment, opens]
    · by_cases closes : last = '*' ∧ c = '/'
      · by_cases outer : depth = 1
        · exact .done () cs (Nat.le_succ _) fun z _ => by simp [afterComment, closes, outer]
        · exact (afterComment_settles (depth - 1) c cs).of_eq (Nat.le_succ _) fun z _ => by
            simp [afterComment, closes, outer]
      · exact (afterComment_settles depth c cs).of_eq (Nat.le_succ _) fun z _ => by
          simp [afterComment, opens, closes]

/-- The characters begin a token that is neither a number nor a word, and no mark of `mark`. -/
inductive Special : Char → List Char → Prop
  | blank {c} (h : c ∈ [' ', '\t', '\n', '\r']) (cs) : Special c cs
  | prefixed {c} (h : c ∈ ['n', 'N', 'x', 'X']) (cs) : Special c ('\'' :: cs)
  | escaped {c} (h : c ∈ ['e', 'E']) (cs) : Special c ('\'' :: cs)
  | unicode {c} (h : c ∈ ['u', 'U']) (cs) : Special c ('&' :: '\'' :: cs)
  | single (cs) : Special '\'' cs
  | double (cs) : Special '"' cs
  | line (cs) : Special '-' ('-' :: cs)
  | block (cs) : Special '/' ('*' :: cs)
  | question (cs) : Special '?' cs
  | dollar (cs) : Special '$' cs
  | point (cs) : Special '.' cs

/-- What ends a token makes none special. -/
theorem Special.stops {z : List Char} (stops : Stops z) {c : Char} {cs : List Char}
    (h : Special c (cs ++ z)) : Special c cs := by
  generalize is : cs ++ z = xs at h
  cases h with
  | blank h => exact .blank h cs
  | prefixed h r =>
    obtain ⟨r, rfl, -⟩ := append_stops_cons stops is (by decide) (by decide)
    exact .prefixed h r
  | escaped h r =>
    obtain ⟨r, rfl, -⟩ := append_stops_cons stops is (by decide) (by decide)
    exact .escaped h r
  | unicode h r =>
    obtain ⟨r, rfl, is'⟩ := append_stops_cons stops is (by decide) (by decide)
    obtain ⟨r, rfl, -⟩ := append_stops_cons stops is'.symm (by decide) (by decide)
    exact .unicode h r
  | line r =>
    obtain ⟨r, rfl, -⟩ := append_stops_cons stops is (by decide) (by decide)
    exact .line r
  | block r =>
    obtain ⟨r, rfl, -⟩ := append_stops_cons stops is (by decide) (by decide)
    exact .block r
  | single => exact .single cs
  | double => exact .double cs
  | question => exact .question cs
  | dollar => exact .dollar cs
  | point => exact .point cs

theorem step_other {c : Char} {cs : List Char} (other : ¬Special c cs) : step (c :: cs) =
    if c.isDigit then number (c :: cs) else if isNameStart c then word (c :: cs) else mark (c :: cs) := by
  unfold step
  split <;> rename_i is <;> cases is
  case h_2.refl | h_3.refl | h_4.refl | h_5.refl => exact absurd (.blank (by decide) _) other
  case h_6.refl | h_7.refl | h_8.refl | h_9.refl => exact absurd (.prefixed (by decide) _) other
  case h_10.refl | h_11.refl => exact absurd (.escaped (by decide) _) other
  case h_12.refl | h_13.refl => exact absurd (.unicode (by decide) _) other
  case h_14.refl => exact absurd (.single _) other
  case h_15.refl => exact absurd (.double _) other
  case h_16.refl => exact absurd (.line _) other
  case h_17.refl => exact absurd (.block _) other
  case h_18.refl | h_19.refl | h_20.refl => exact absurd (.question _) other
  case h_21.refl => exact absurd (.dollar _) other
  case h_22.refl => exact absurd (.point _) other
  case h_23.refl => rfl

/-- The rest of a line, passed as a comment. -/
theorem line_settles (cs : List Char) : Settles (fun xs =>
    some ((none : Option Token), (xs.dropWhile (· != '\n')).drop 1)) cs := by
  have shorter := (List.dropWhile_sublist (l := cs) (· != '\n')).length_le
  cases found : cs.dropWhile (· != '\n') with
  | nil =>
    have : (cs ++ [',']).dropWhile (· != '\n') = [] := by
      rw [List.dropWhile_append, found]
      rfl
    exact .swallowed (by rw [this]; rfl)
  | cons d r =>
    rw [found, List.length_cons] at shorter
    refine .done none r (Nat.le_of_succ_le shorter) fun z _ => ?_
    rw [List.dropWhile_append, found]
    rfl

theorem quote_comma : '\'' ≠ ',' := by decide
theorem quote_space : '\'' ≠ ' ' := by decide
theorem double_comma : '"' ≠ ',' := by decide
theorem double_space : '"' ≠ ' ' := by decide

/-- A question mark, alone or with the bar or the ampersand after it. -/
theorem question_settles (cs : List Char) : Settles (fun xs => step ('?' :: xs)) cs := by
  cases cs with
  | nil => exact .swallowed rfl
  | cons d cs =>
    by_cases bar : d = '|'
    · subst bar
      exact .done (some (.mark "?|")) cs (Nat.le_succ _) fun z _ => rfl
    by_cases both : d = '&'
    · subst both
      exact .done (some (.mark "?&")) cs (Nat.le_succ _) fun z _ => rfl
    · refine .done (some (.mark "?")) cs (Nat.le_succ _) fun z _ => ?_
      simp [step, bar, both]

theorem Special.settles {c : Char} {cs : List Char} (special : Special c cs) :
    Settles (fun xs => step (c :: xs)) cs := by
  cases special with
  | blank h =>
    simp only [List.mem_cons, List.not_mem_nil, or_false] at h
    refine .done none cs (Nat.le_refl _) fun z _ => ?_
    rcases h with rfl | rfl | rfl | rfl <;> rfl
  | prefixed h r =>
    have body := fun quoting => (quotedBody_settles quote_comma quote_space true r).map fun s =>
      some (Token.string quoting (String.ofList s))
    simp only [List.mem_cons, List.not_mem_nil, or_false] at h
    rcases h with rfl | rfl | rfl | rfl
    · exact (body .national).of_eq (Nat.le_succ _) fun z _ => rfl
    · exact (body .national).of_eq (Nat.le_succ _) fun z _ => rfl
    · exact (body .hexadecimal).of_eq (Nat.le_succ _) fun z _ => rfl
    · exact (body .hexadecimal).of_eq (Nat.le_succ _) fun z _ => rfl
  | escaped h r =>
    have body := (escapedBody_body.settles escape?_settles 0 r).map fun s =>
      some (Token.string .escaped (String.ofList s))
    simp only [List.mem_cons, List.not_mem_nil, or_false] at h
    rcases h with rfl | rfl
    · exact body.of_eq (Nat.le_succ _) fun z _ => rfl
    · exact body.of_eq (Nat.le_succ _) fun z _ => rfl
  | unicode h r =>
    have body := (unicodeBody_body.settles unicodeEscape?_settles 0 r).map fun s =>
      some (Token.string .unicode (String.ofList s))
    simp only [List.mem_cons, List.not_mem_nil, or_false] at h
    rcases h with rfl | rfl
    · exact body.of_eq (by simp; omega) fun z _ => rfl
    · exact body.of_eq (by simp; omega) fun z _ => rfl
  | single =>
    exact ((quotedBody_settles quote_comma quote_space false cs).map fun s =>
      some (Token.string .single (String.ofList s))).of_eq (Nat.le_refl _) fun z _ => rfl
  | double =>
    exact ((quotedBody_settles double_comma double_space false cs).map fun s =>
      some (Token.word (String.ofList s) "" true)).of_eq (Nat.le_refl _) fun z _ => rfl
  | line r => exact Settles.of_eq (line_settles r) (Nat.le_succ _) fun z _ => rfl
  | block r =>
    refine ((afterComment_settles 1 ' ' r).map fun _ => (none : Option Token)).of_eq
      (Nat.le_succ _) fun z _ => ?_
    rw [Option.map_map]
    rfl
  | question => exact question_settles cs
  | dollar => exact dollar_settles cs
  | point => exact number_settles '.' cs (.inr rfl)

/-- A token is read from before a comma as before any text that ends a token, unless it takes the
comma along. -/
theorem step_settles (c : Char) (cs : List Char) : Settles (fun xs => step (c :: xs)) cs := by
  by_cases special : Special c cs
  · exact special.settles
  · have same : ∀ z, Stops z → step (c :: (cs ++ z)) = if c.isDigit then number (c :: (cs ++ z))
        else if isNameStart c then word (c :: (cs ++ z)) else mark (c :: (cs ++ z)) :=
      fun z stops => step_other fun h => special (h.stops stops)
    by_cases digit : c.isDigit = true
    · refine (number_settles c cs (.inl digit)).of_eq (Nat.le_refl _) fun z stops => ?_
      rw [same z stops, if_pos digit]
    by_cases name : isNameStart c = true
    · refine (word_settles c cs).of_eq (Nat.le_refl _) fun z stops => ?_
      rw [same z stops, if_neg digit, if_pos name]
    · refine (mark_settles c cs).of_eq (Nat.le_refl _) fun z stops => ?_
      rw [same z stops, if_neg digit, if_neg name]

/-- A comma is a token of its own. -/
theorem step_comma {c : Char} {cs rest : List Char}
    (h : step (c :: cs) = some (some (.mark ","), rest)) : rest = cs := by
  by_cases special : Special c cs
  · cases special with
    | blank blank =>
      simp only [List.mem_cons, List.not_mem_nil, or_false] at blank
      rcases blank with rfl | rfl | rfl | rfl <;> cases h
    | prefixed h' r =>
      simp only [List.mem_cons, List.not_mem_nil, or_false] at h'
      rcases h' with rfl | rfl | rfl | rfl <;> simp [step] at h
    | escaped h' r =>
      simp only [List.mem_cons, List.not_mem_nil, or_false] at h'
      rcases h' with rfl | rfl <;> simp [step] at h
    | unicode h' r =>
      simp only [List.mem_cons, List.not_mem_nil, or_false] at h'
      rcases h' with rfl | rfl <;> simp [step] at h
    | single => simp [step] at h
    | double => simp [step] at h
    | line => simp [step] at h
    | block => simp [step] at h
    | question =>
      match cs with
      | [] => simp [step] at h
      | d :: cs =>
        by_cases bar : d = '|'
        · subst bar
          simp [step] at h
        by_cases both : d = '&'
        · subst both
          simp [step] at h
        · simp [step, bar, both] at h
    | dollar => exact absurd h (dollar_not_comma cs rest)
    | point => exact (number_not_comma ('.' :: cs) rest h).elim
  · rw [step_other special] at h
    split at h
    · exact absurd h (number_not_comma _ rest)
    split at h
    · cases h
    · exact mark_comma h

theorem tokens_nil (fuel : Nat) : tokens fuel [] = some [] := by
  cases fuel <;> rfl

theorem tokens_cons {fuel : Nat} {c : Char} {cs : List Char} {ts : List Token} :
    tokens (fuel + 1) (c :: cs) = some ts ↔ ∃ token? rest others,
      step (c :: cs) = some (token?, rest) ∧ tokens fuel rest = some others ∧
        token?.toList ++ others = ts := by
  simp [tokens, Option.bind_eq_some_iff]

/-- Fuel beyond what suffices changes nothing. -/
theorem tokens_more (more : Nat) : ∀ {fuel : Nat} {cs : List Char} {ts : List Token},
    tokens fuel cs = some ts → tokens (fuel + more) cs = some ts
  | fuel, [], ts, read => by
    rw [tokens_nil] at read ⊢
    exact read
  | 0, c :: cs, ts, read => by cases read
  | fuel + 1, c :: cs, ts, read => by
    obtain ⟨token?, rest, others, stepped, later, rfl⟩ := tokens_cons.mp read
    rw [Nat.add_right_comm]
    exact tokens_cons.mpr ⟨token?, rest, others, stepped, tokens_more more later, rfl⟩

/-- If a comma after the text is read as a token of its own, the text is read the same before any text
that ends a token. -/
theorem tokens_append {z : List Char} (stops : Stops z) : ∀ {cs : List Char} {fuel fuel' : Nat}
    {ts : List Token}, tokens fuel cs = some ts →
    tokens fuel' (cs ++ [',']) = some (ts ++ [.mark ","]) →
    ∀ {fuel : Nat} {others : List Token}, tokens fuel z = some others →
      tokens (fuel + cs.length) (cs ++ z) = some (ts ++ others)
  | [], fuel, _, ts, read, _, fuel', others, after => by
    rw [tokens_nil] at read
    cases read
    exact after
  | c :: cs, 0, _, ts, read, _, _, others, _ => by cases read
  | c :: cs, _, 0, ts, _, read, _, others, _ => by cases read
  | c :: cs, fuel + 1, fuel' + 1, ts, read, read', fuel'', others, after => by
    obtain ⟨token?, rest, us, stepped, later, rfl⟩ := tokens_cons.mp read
    obtain ⟨token', rest', us', stepped', later', same⟩ := tokens_cons.mp read'
    rcases step_settles c cs token' rest' stepped' with rfl | ⟨r, rfl, shorter, again⟩
    · rw [tokens_nil] at later'
      cases later'
      cases token' with
      | none => simp at same
      | some token =>
        have comma : token = .mark "," := by
          cases token? <;> cases us <;> simp_all
        subst comma
        have := step_comma stepped'
        simp at this
    · have first := again [] (by simp [Stops])
      simp only [List.append_nil, stepped] at first
      cases first
      have last : us' = us ++ [.mark ","] := by simpa using same
      subst last
      have length : fuel'' + (cs.length - rest.length) + rest.length + 1 =
          fuel'' + (c :: cs).length := by
        simp only [List.length_cons]
        omega
      rw [← length]
      exact tokens_cons.mpr ⟨token?, rest ++ z, us ++ others, again z stops,
        tokens_append stops later later' (tokens_more _ after), by simp⟩
termination_by cs => cs.length

end Clickstream.Sql.Lexer
