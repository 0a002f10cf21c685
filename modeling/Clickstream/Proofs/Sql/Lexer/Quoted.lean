import Clickstream.Proofs.Sql.Lexer.Stop

/-! Quoted strings, those with escapes among them. -/
namespace Clickstream.Sql.Lexer

theorem quotedBody_settles {quote : Char} (comma : quote ≠ ',') (space : quote ≠ ' ') (backslash : Bool) :
    ∀ cs, Settles (quotedBody quote backslash) cs
  | [] => .stuck (by simp [quotedBody, Ne.symm comma])
  | [c] => by
    by_cases closes : c = quote
    · subst closes
      refine .done [] [] (Nat.zero_le 1) fun z stops => ?_
      cases z with
      | nil => simp [quotedBody]
      | cons d z =>
        have other : d ≠ c := by
          rintro rfl
          rcases stops d rfl with rfl | rfl
          · exact comma rfl
          · exact space rfl
        simp [quotedBody, other]
    · refine .stuck ?_
      simp [quotedBody, closes, Ne.symm comma]
  | c :: d :: cs => by
    by_cases closes : c = quote
    · subst closes
      by_cases doubled : d = c
      · subst doubled
        exact ((quotedBody_settles comma space backslash cs).map (d :: ·)).of_eq (by simp; omega)
          fun z _ => by simp [quotedBody]
      · exact .done [] (d :: cs) (Nat.le_succ _) fun z _ => by simp [quotedBody, doubled]
    · by_cases escapes : (backslash && c == '\\') = true
      · exact ((quotedBody_settles comma space backslash cs).map (d :: ·)).of_eq (by simp; omega)
          fun z _ => by simp [quotedBody, closes, escapes]
      · exact ((quotedBody_settles comma space backslash (d :: cs)).map (c :: ·)).of_eq (by simp)
          fun z _ => by simp [quotedBody, closes, escapes]

/-- A comma is no hexadecimal digit. -/
theorem hexValue?_comma (cs : List Char) : hexValue? (cs ++ [',']) = none := by
  simp only [hexValue?, List.foldlM_append]
  cases cs.foldlM (fun n c => (hexDigit? c).map (16 * n + ·)) 0 with
  | none => rfl
  | some n => rfl

/-- What is read from as many characters, if there are as many. -/
def taken {α : Type} (count : Nat) (f : List Char → Option α) (cs : List Char) :
    Option (α × List Char) :=
  if (cs.take count).length < count then none else (f (cs.take count)).map (·, cs.drop count)

theorem taken_settles {α : Type} {count : Nat} {f : List Char → Option α}
    (comma : ∀ cs, cs.length + 1 = count → f (cs ++ [',']) = none) (cs : List Char) :
    Settles (taken count f) cs := by
  by_cases enough : count ≤ cs.length
  · have same (z : List Char) : taken count f (cs ++ z) =
        (f (cs.take count)).map (·, cs.drop count ++ z) := by
      have all : ¬(cs.take count).length < count := by simp [enough]
      rw [taken, List.take_append_of_le_length enough, List.drop_append_of_le_length enough, if_neg all]
    cases found : f (cs.take count) with
    | none => exact .stuck (by rw [same, found]; rfl)
    | some a =>
      refine .done a (cs.drop count) (length_drop_le _ _) fun z _ => ?_
      rw [same, found]
      rfl
  · refine .stuck ?_
    unfold taken
    split
    · rfl
    · rename_i all
      have length : cs.length + 1 = count := by
        simp only [List.length_take, List.length_append, List.length_cons, List.length_nil] at all
        omega
      rw [List.take_of_length_le (by simp; omega), comma cs length]
      rfl

/-- The code point of an escape in an `E` string. -/
def code (count : Nat) : List Char → Option (Char × List Char) :=
  taken count fun digits => do
    char? (← hexValue? (if digits.head? = some '+' then digits.drop 1 else digits))

theorem code_settles {count : Nat} (many : 1 < count) (cs : List Char) : Settles (code count) cs := by
  refine taken_settles (fun cs length => ?_) cs
  match cs with
  | [] => simp at length; omega
  | c :: cs =>
    have : hexValue? (if ((c :: cs) ++ [',']).head? = some '+' then ((c :: cs) ++ [',']).drop 1
        else (c :: cs) ++ [',']) = none := by
      split
      · exact hexValue?_comma cs
      · exact hexValue?_comma (c :: cs)
    rw [this]
    rfl

def notNull (c : Char) : Option Char := if c = '\x00' then none else some c

theorem notNull_map (c : Char) (rest : List Char) :
    (if c = '\x00' then none else some (c, rest)) = (notNull c).map (·, rest) := by
  unfold notNull
  split <;> rfl

theorem escape?_code {letter : Char} {count : Nat}
    (is : letter = 'u' ∧ count = 4 ∨ letter = 'U' ∧ count = 8) (cs : List Char) :
    escape? (letter :: cs) = (code count cs).bind fun (c, after) => (notNull c).map (·, after) := by
  have same (count : Nat) :
      ((if (cs.take count).length < count then none
        else (hexValue? (if (cs.take count).head? = some '+' then (cs.take count).drop 1
          else cs.take count)).bind fun n => (char? n).bind fun c => some (c, cs.drop count)).bind
        fun (c, rest) => if c = '\x00' then none else some (c, rest)) =
      (code count cs).bind fun (c, after) => (notNull c).map (·, after) := by
    simp only [code, taken, notNull_map]
    split
    · rfl
    · cases hexValue? (if (cs.take count).head? = some '+' then (cs.take count).drop 1
          else cs.take count) with
      | none => rfl
      | some n => cases found : char? n <;> simp [found]
  rcases is with ⟨rfl, rfl⟩ | ⟨rfl, rfl⟩
  · exact same 4
  · exact same 8

def byte (n : Nat) : Option Char := if n % 256 < 128 then some (Char.ofNat (n % 256)) else none

/-- A code of a byte, in the digits that follow its letter. -/
def digits (p : Char → Bool) (f : List Char → Option Char) (cs : List Char) :
    Option (Char × List Char) :=
  (f ((cs.take 2).takeWhile p)).map (·, cs.drop ((cs.take 2).takeWhile p).length)

theorem digits_settles {p : Char → Bool} (comma : p ',' = false) (space : p ' ' = false)
    (f : List Char → Option Char) (cs : List Char) : Settles (digits p f) cs := by
  have same : ∀ z, Stops z → digits p f (cs ++ z) = (f ((cs.take 2).takeWhile p)).map
      (·, cs.drop ((cs.take 2).takeWhile p).length ++ z) := by
    intro z stops
    have within : ((cs.take 2).takeWhile p).length ≤ cs.length :=
      Nat.le_trans (List.takeWhile_sublist p).length_le (List.take_sublist 2 cs).length_le
    rw [digits, take_stops comma space stops, List.drop_append_of_le_length within]
  cases found : f ((cs.take 2).takeWhile p) with
  | none => exact .stuck (by rw [same _ stops_comma, found]; rfl)
  | some c =>
    refine .done c (cs.drop ((cs.take 2).takeWhile p).length) (length_drop_le _ cs) fun z stops => ?_
    rw [same z stops, found]
    rfl

theorem escape?_hexadecimal (cs : List Char) : escape? ('x' :: cs) =
    (digits (fun c => (hexDigit? c).isSome) (fun ds => if ds.isEmpty then some 'x' else
      (hexValue? ds).bind byte) cs).bind fun (c, after) => (notNull c).map (·, after) := by
  simp only [escape?, digits, notNull_map]
  cases (cs.take 2).takeWhile (fun c => (hexDigit? c).isSome) <;> rfl

/-- An escape that is no letter's: a byte in octal digits, or the character itself. -/
theorem escape?_other {c : Char} (other : c ∉ ['b', 'f', 'n', 'r', 't', 'u', 'U', 'x'])
    (cs : List Char) : escape? (c :: cs) =
      (if '0' ≤ c && c ≤ '7' then
        digits (fun c => '0' ≤ c && c ≤ '7')
          (fun ds => byte ((c :: ds).foldl (fun n c => 8 * n + digitValue c) 0)) cs
      else some (c, cs)).bind fun (c, after) => (notNull c).map (·, after) := by
  simp only [List.mem_cons, List.not_mem_nil, or_false, not_or] at other
  obtain ⟨_, _, _, _, _, _, _, _⟩ := other
  simp only [escape?, digits, notNull_map]
  split <;> rfl

theorem escape?_settles (cs : List Char) : Settles escape? cs := by
  match cs with
  | [] => exact .swallowed rfl
  | c :: cs =>
    by_cases simple : c ∈ ['b', 'f', 'n', 'r', 't']
    · simp only [List.mem_cons, List.not_mem_nil, or_false] at simple
      rcases simple with rfl | rfl | rfl | rfl | rfl
      · exact .done '\x08' cs (Nat.le_succ _) fun z _ => rfl
      · exact .done '\x0c' cs (Nat.le_succ _) fun z _ => rfl
      · exact .done '\n' cs (Nat.le_succ _) fun z _ => rfl
      · exact .done '\r' cs (Nat.le_succ _) fun z _ => rfl
      · exact .done '\t' cs (Nat.le_succ _) fun z _ => rfl
    by_cases four : c = 'u'
    · exact ((code_settles (by decide) cs).filterMap notNull).of_eq (Nat.le_succ _)
        fun z _ => escape?_code (.inl ⟨four, rfl⟩) (cs ++ z)
    by_cases eight : c = 'U'
    · exact ((code_settles (by decide) cs).filterMap notNull).of_eq (Nat.le_succ _)
        fun z _ => escape?_code (.inr ⟨eight, rfl⟩) (cs ++ z)
    by_cases hexadecimal : c = 'x'
    · subst hexadecimal
      exact ((digits_settles rfl rfl _ cs).filterMap notNull).of_eq (Nat.le_succ _)
        fun z _ => escape?_hexadecimal (cs ++ z)
    have other : c ∉ ['b', 'f', 'n', 'r', 't', 'u', 'U', 'x'] := by
      simp only [List.mem_cons, List.not_mem_nil, or_false, not_or] at simple ⊢
      simp [simple, four, eight, hexadecimal]
    by_cases octal : ('0' ≤ c && c ≤ '7') = true
    · refine ((digits_settles (p := fun c => '0' ≤ c && c ≤ '7') (by decide) (by decide)
        (fun ds => byte ((c :: ds).foldl (fun n c => 8 * n + digitValue c) 0)) cs).filterMap
        notNull).of_eq (Nat.le_succ _) fun z _ => ?_
      rw [List.cons_append, escape?_other other, if_pos octal]
    · have kept : Settles (fun xs => some (c, xs)) cs := .done c cs (Nat.le_refl _) fun z _ => rfl
      refine (kept.filterMap notNull).of_eq (Nat.le_succ _) fun z _ => ?_
      rw [List.cons_append, escape?_other other, if_neg octal]

/-- How a string with escapes is read after its opening quote, with fuel for its characters. -/
structure Body (f : Nat → List Char → Option (List Char × List Char))
    (escape : List Char → Option (Char × List Char)) : Prop where
  ended : ∀ fuel, f fuel [] = none
  doubled : ∀ fuel rest, f (fuel + 1) ('\'' :: '\'' :: rest) =
    (f fuel rest).map fun (s, after) => ('\'' :: s, after)
  closed : ∀ fuel rest, (∀ r, rest ≠ '\'' :: r) → f (fuel + 1) ('\'' :: rest) = some ([], rest)
  escaped : ∀ fuel rest, f (fuel + 1) ('\\' :: rest) = (escape rest).bind fun (c, after) =>
    (f fuel after).map fun (s, after) => (c :: s, after)
  plain : ∀ fuel c rest, c ≠ '\'' → c ≠ '\\' → f (fuel + 1) (c :: rest) =
    (f fuel rest).map fun (s, after) => (c :: s, after)

theorem Body.settles {f : Nat → List Char → Option (List Char × List Char)}
    {escape : List Char → Option (Char × List Char)} (body : Body f escape)
    (escapes : ∀ cs, Settles escape cs) : ∀ (extra : Nat) (cs : List Char),
    Settles (fun xs => f (xs.length + (extra + 1)) xs) cs
  | extra, [] => .stuck (by
    have := body.plain (extra + 1) ',' [] (by decide) (by decide)
    rw [body.ended] at this
    simpa [Nat.add_comm] using this)
  | extra, c :: cs => by
    have fuel (xs : List Char) : (c :: xs).length + (extra + 1) = xs.length + (extra + 1) + 1 := by
      simp only [List.length_cons]
      omega
    by_cases quote : c = '\''
    · subst quote
      by_cases doubled : ∃ r, cs = '\'' :: r
      · obtain ⟨r, rfl⟩ := doubled
        refine ((body.settles escapes (extra + 1) r).map ('\'' :: ·)).of_eq (by simp; omega) fun z _ => ?_
        have length : (r ++ z).length + (extra + 1 + 1) = ('\'' :: (r ++ z)).length + (extra + 1) := by
          simp only [List.length_cons]
          omega
        rw [List.cons_append, fuel, List.cons_append, body.doubled, ← length]
      · refine .done [] cs (Nat.le_succ _) fun z stops => ?_
        rw [List.cons_append, fuel]
        refine body.closed _ _ fun r is => ?_
        obtain ⟨r', is, -⟩ := append_stops_cons stops is (by decide) (by decide)
        exact doubled ⟨r', is⟩
    by_cases backslash : c = '\\'
    · subst backslash
      intro s rest read
      change f (('\\' :: (cs ++ [','])).length + (extra + 1)) ('\\' :: (cs ++ [','])) = _ at read
      rw [fuel, body.escaped] at read
      obtain ⟨⟨c, mid⟩, escaped, read⟩ := Option.bind_eq_some_iff.mp read
      obtain ⟨⟨s', rest'⟩, read, same⟩ := Option.map_eq_some_iff.mp read
      cases same
      rcases escapes cs c mid escaped with rfl | ⟨r, rfl, shorter, again⟩
      · rw [body.ended] at read
        cases read
      · have length (z : List Char) : (r ++ z).length + (extra + (cs.length - r.length) + 1) =
            (cs ++ z).length + (extra + 1) := by
          simp only [List.length_append]
          omega
        rw [← length] at read
        refine (body.settles escapes (extra + (cs.length - r.length)) r s' rest read).imp_right ?_
        rintro ⟨r', is, shorter', again'⟩
        refine ⟨r', is, Nat.le_trans shorter' (Nat.le_succ_of_le shorter), fun z stops => ?_⟩
        have later := again' z stops
        dsimp only at later ⊢
        rw [length] at later
        rw [List.cons_append, fuel, body.escaped, again z stops]
        simp only [Option.bind_some, later, Option.map_some]
    · refine ((body.settles escapes extra cs).map (c :: ·)).of_eq (Nat.le_succ _) fun z _ => ?_
      rw [List.cons_append, fuel, body.plain _ _ _ quote backslash]
termination_by _ cs => cs.length

theorem escapedBody_body : Body escapedBody escape? where
  ended fuel := by cases fuel <;> rfl
  doubled fuel rest := rfl
  closed fuel rest single := by rw [escapedBody] <;> simp [single]
  escaped fuel rest := by
    simp only [escapedBody]
    cases escape? rest with
    | none => rfl
    | some found => cases read : escapedBody fuel found.2 <;> simp [read]
  plain fuel c rest quote backslash := by rw [escapedBody] <;> simp [quote, backslash]

/-- The character of an escape in a `U&` string, and what follows it. -/
def unicodeEscape? : List Char → Option (Char × List Char)
  | '\\' :: rest => some ('\\', rest)
  | '+' :: rest => taken 6 (fun digits => (hexValue? digits).bind char?) rest
  | rest => taken 4 (fun digits => (hexValue? digits).bind char?) rest

theorem unicodeEscape?_settles (cs : List Char) : Settles unicodeEscape? cs := by
  have hex (count : Nat) (cs : List Char) :
      Settles (taken count fun digits => (hexValue? digits).bind char?) cs :=
    taken_settles (fun cs _ => by rw [hexValue?_comma]; rfl) cs
  match cs with
  | [] => exact .stuck rfl
  | c :: cs =>
    by_cases backslash : c = '\\'
    · subst backslash
      exact .done '\\' cs (Nat.le_succ _) fun z _ => rfl
    by_cases plus : c = '+'
    · subst plus
      exact (hex 6 cs).of_eq (Nat.le_succ _) fun z _ => rfl
    · refine (hex 4 (c :: cs)).of_eq (Nat.le_refl _) fun z _ => ?_
      rw [List.cons_append, unicodeEscape?] <;> simp [backslash, plus]

theorem unicodeBody_hex (fuel count : Nat) (rest : List Char) :
    (if (rest.take count).length < count then none
      else (hexValue? (rest.take count)).bind fun n => (char? n).bind fun c =>
        (unicodeBody fuel (rest.drop count)).bind fun (s, after) => some (c :: s, after)) =
      (taken count (fun digits => (hexValue? digits).bind char?) rest).bind fun (c, after) =>
        (unicodeBody fuel after).map fun (s, after) => (c :: s, after) := by
  unfold taken
  split
  · rfl
  · cases value : hexValue? (rest.take count) with
    | none => simp [value]
    | some n =>
      cases found : char? n with
      | none => simp [value, found]
      | some c => cases read : unicodeBody fuel (rest.drop count) <;> simp [value, found, read]

theorem unicodeBody_body : Body unicodeBody unicodeEscape? where
  ended fuel := by cases fuel <;> rfl
  doubled fuel rest := rfl
  closed fuel rest single := by rw [unicodeBody] <;> simp [single]
  escaped fuel rest := by
    match rest with
    | [] => exact (unicodeBody_hex fuel 4 []).trans rfl
    | c :: rest =>
      by_cases backslash : c = '\\'
      · subst backslash
        rfl
      by_cases plus : c = '+'
      · subst plus
        exact unicodeBody_hex fuel 6 rest
      · rw [unicodeEscape?, ← unicodeBody_hex, unicodeBody]
        · split <;> rfl
        all_goals simp [backslash, plus]
  plain fuel c rest quote backslash := by rw [unicodeBody] <;> simp [quote, backslash]

end Clickstream.Sql.Lexer
