import Clickstream.Json.Passing
import Clickstream.Json.Tree
import Clickstream.Proofs.Number.Written
import Clickstream.Proofs.Outcome
import Clickstream.Proofs.Text.Front

/-! Passing over JSON values: blanks, numerals, and the entries between brackets, one after another. -/
namespace Clickstream.Json
namespace Reading

theorem peek?_run (s : List Char) : peek? s = .ok (s.head?, s) := rfl

theorem skip_run (s : List Char) : skip s = .ok ((), s.drop 1) := rfl

section Blanks
variable {α : Type} {pre : List Char} {c : Char} {k : Unit → Reading α} {next : Option Char → Reading α}

/-- The characters that may stand around tokens. -/
def blank (c : Char) : Bool := c == ' ' || c == '\n' || c == '\t' || c == '\r'

theorem blank_of_isDigit (digit : c.isDigit = true) : blank c = false := by
  by_contra passed
  simp only [blank, Bool.not_eq_false, Bool.or_eq_true, beq_iff_eq] at passed
  rcases passed with ((rfl | rfl) | rfl) | rfl <;> cases digit

/-- There may be no blank as well. -/
theorem blank_nil : ∀ c ∈ ([] : List Char), blank c = true := List.forall_mem_nil _

theorem blanks_append (all : ∀ c ∈ pre, blank c = true) (s : List Char) :
    (blanks >>= k) (pre ++ s) = (blanks >>= k) s := by
  have same : blanks (pre ++ s) = blanks s :=
    congrArg (fun s => Except.ok ((), s)) (List.dropWhile_append_of_pos all)
  simp only [bind, StateT.bind, same]

/-- The next character that is not blank decides how it goes on. -/
theorem ahead_run (other : blank c = false) (s : List Char) :
    (do blanks; next (← peek?)) (c :: s) = next (some c) (c :: s) := by
  have none_ : blanks (c :: s) = .ok ((), c :: s) :=
    congrArg (fun s => Except.ok ((), s))
      (List.dropWhile_cons_of_neg fun passed => by rw [← blank, other] at passed; cases passed)
  rw [bind_of_ok none_, bind_of_ok (peek?_run _), List.head?_cons]

theorem passValue_blanks (all : ∀ c ∈ pre, blank c = true) (fuel : Nat) (s : List Char) :
    passValue fuel (pre ++ s) = passValue fuel s := by
  cases fuel with
  | zero => rfl
  | succ fuel =>
    rw [passValue]
    exact blanks_append all s

end Blanks

/-- What follows a number where it ends. -/
def Apart (rest : List Char) : Prop :=
  ∀ c, rest.head? = some c → c.isDigit = false ∧ c ≠ '.' ∧ c ≠ 'e' ∧ c ≠ 'E'

section Numerals
variable {ds rest : List Char}

theorem passDigits_append (all : IsDigits ds)
    (stops : ∀ c, rest.head? = some c → c.isDigit = false) :
    passDigits (ds ++ rest) = .ok ((), rest) := by
  obtain ⟨d, ds, rfl⟩ := List.exists_cons_of_ne_nil all.nonempty
  have digit : d.isDigit = true := all.digits d (by simp)
  have passed : (d :: ds ++ rest).dropWhile Char.isDigit = rest := Text.dropWhile_front stops all.digits
  unfold passDigits
  rw [bind_of_ok (peek?_run _)]
  simp only [List.cons_append, List.head?_cons, Option.any_some, digit, Bool.not_true,
    Bool.false_eq_true, ↓reduceIte]
  exact congrArg (fun s => Except.ok ((), s)) passed

theorem passExponent_append {exponent : List Char} (scaled : IsExponent exponent)
    (apart : Apart rest) : passExponent (exponent ++ rest) = .ok ((), rest) := by
  unfold passExponent
  rw [bind_of_ok (get_run _)]
  rcases scaled with rfl | ⟨letter, sign, ds, marks, signs, all, rfl⟩
  · cases rest with
    | nil => rfl
    | cons c rest =>
      obtain ⟨-, -, small, large⟩ := apart c rfl
      simp only [List.nil_append, small, large, or_self, ↓reduceIte]
      rfl
  · have unsigned : (signed (sign ++ ds ++ rest)).2 = ds ++ rest := by
      obtain ⟨d, ds, rfl⟩ := List.exists_cons_of_ne_nil all.nonempty
      have digit : d.isDigit = true := all.digits d (by simp)
      rcases signs with rfl | rfl | rfl
      · simp only [List.nil_append, List.cons_append, signed]
        split
        · rename_i same
          cases same
          simp at digit
        · rename_i same
          cases same
          simp at digit
        · rfl
      · rfl
      · rfl
    simp only [List.cons_append, marks, ↓reduceIte]
    rw [unsigned, bind_of_ok (set_run _ _)]
    exact passDigits_append all fun c there => (apart c there).1

/-- What follows the whole part of a number. -/
def passFraction : Reading Unit := do
  match ← get with
  | '.' :: rest =>
    set rest
    passDigits
  | _ => pure ()
  passExponent

private theorem passNumber_whole {whole : List Char} (digits : IsDigits whole)
    (leading : whole.head? = some '0' → whole = ['0'])
    (stops : ∀ c, rest.head? = some c → c.isDigit = false) :
    passNumber (whole ++ rest) = passFraction rest := by
  unfold passNumber
  rw [bind_of_ok (get_run _)]
  by_cases zero : whole.head? = some '0'
  · have unfollowed : rest.head?.any Char.isDigit = false := by
      cases rest with
      | nil => rfl
      | cons c rest => exact stops c rfl
    rw [leading zero]
    simp only [List.cons_append, List.nil_append]
    rw [bind_of_ok (set_run _ _)]
    simp only [unfollowed, Bool.false_eq_true, ↓reduceIte]
    rfl
  · obtain ⟨d, ds, rfl⟩ := List.exists_cons_of_ne_nil digits.nonempty
    generalize same : d :: ds ++ rest = s
    split
    · cases same
      exact absurd rfl zero
    · rw [← same, bind_of_ok (passDigits_append digits stops)]
      rfl

/-- A numeral is passed over up to its end. -/
theorem passNumber_append {cs : List Char} (numeral : IsNumeral cs) (apart : Apart rest) :
    passNumber (cs ++ rest) = .ok ((), rest) := by
  obtain @⟨whole, fraction, exponent, digits, leading, fractional, scaled⟩ := numeral
  have marked : ∀ c, (exponent ++ rest).head? = some c → c.isDigit = false ∧ c ≠ '.' := by
    intro c there
    rcases scaled with rfl | ⟨letter, sign, ds, marks, -, -, rfl⟩
    · exact ⟨(apart c there).1, (apart c there).2.1⟩
    · cases there
      rcases marks with rfl | rfl <;> exact ⟨rfl, by decide⟩
  have stops : ∀ c, (fraction ++ (exponent ++ rest)).head? = some c → c.isDigit = false := by
    intro c there
    rcases fractional with rfl | ⟨ds, -, rfl⟩
    · exact (marked c there).1
    · cases there
      rfl
  rw [List.append_assoc, List.append_assoc, passNumber_whole digits leading stops]
  unfold passFraction
  rw [bind_of_ok (get_run _)]
  rcases fractional with rfl | ⟨ds, all, rfl⟩
  · generalize same : [] ++ (exponent ++ rest) = s
    split
    · exact absurd rfl (marked '.' (congrArg List.head? same)).2
    · rw [← same]
      exact passExponent_append scaled apart
  · simp only [List.cons_append]
    rw [bind_of_ok (set_run _ _), bind_of_ok (passDigits_append all fun c there => (marked c there).1)]
    exact passExponent_append scaled apart

end Numerals

theorem apart_nil : Apart [] := by
  intro c none_
  cases none_

/-- What follows it does not go on with a number, so it may stand after any value. -/
theorem apart_cons {c : Char} (digit : c.isDigit = false) (other : c ∉ ['.', 'e', 'E']) (s : List Char) :
    Apart (c :: s) := by
  rintro _ ⟨⟩
  simp only [List.mem_cons, List.not_mem_nil, or_false, not_or] at other
  exact ⟨digit, other⟩

theorem apart_blanks {pre s : List Char} (all : ∀ c ∈ pre, blank c = true) (apart : Apart s) :
    Apart (pre ++ s) := by
  cases pre with
  | nil => exact apart
  | cons c pre =>
    have passed := all c (by simp)
    simp only [blank, Bool.or_eq_true, beq_iff_eq] at passed
    rcases passed with ((rfl | rfl) | rfl) | rfl <;> exact apart_cons rfl (by decide) _

/-- The characters are passed by the reading, which takes no more fuel than two for each, before whatever
does not go on with a number. They begin neither with a blank nor with a closing bracket. -/
structure Passed (entry : Nat → Reading Unit) (cs : List Char) : Prop where
  head : ∃ c tail, cs = c :: tail ∧ blank c = false ∧ c ≠ ']' ∧ c ≠ '\x7d'
  run : ∀ fuel rest, 2 * cs.length ≤ fuel → Apart rest → entry fuel (cs ++ rest) = .ok ((), rest)

/-- A text between blanks. -/
structure Padded where
  before : List Char
  core : List Char
  after : List Char
  before_blank : ∀ c ∈ before, blank c = true
  after_blank : ∀ c ∈ after, blank c = true

def Padded.chars (p : Padded) : List Char := p.before ++ p.core ++ p.after

/-- Entries that each follow a comma. -/
def following (entries : List Padded) : List Char := entries.flatMap fun e => ',' :: e.chars

theorem following_cons (e : Padded) (entries : List Padded) :
    following (e :: entries) = ',' :: (e.chars ++ following entries) := rfl

/-- Entries with a comma between any two. -/
def separated : List Padded → List Char
  | [] => []
  | first :: others => first.chars ++ following others

/-- How the entries between brackets are passed, one after another. -/
structure Loops (entry loop : Nat → Reading Unit) (opening closing : Char) : Prop where
  brackets : opening = '[' ∧ closing = ']' ∨ opening = '\x7b' ∧ closing = '\x7d'
  blanks : ∀ fuel pre s, (∀ c ∈ pre, blank c = true) → entry fuel (pre ++ s) = entry fuel s
  empty : ∀ fuel pre s, (∀ c ∈ pre, blank c = true) →
    passValue (fuel + 1) (opening :: (pre ++ closing :: s)) = .ok ((), s)
  opened : ∀ fuel pre c s, (∀ c ∈ pre, blank c = true) → blank c = false → c ≠ closing →
    passValue (fuel + 1) (opening :: (pre ++ c :: s)) = loop fuel (c :: s)
  next : ∀ fuel s pre rest, (∀ c ∈ pre, blank c = true) →
    entry fuel s = .ok ((), pre ++ ',' :: rest) → loop (fuel + 1) s = loop fuel rest
  last : ∀ fuel s pre rest, (∀ c ∈ pre, blank c = true) →
    entry fuel s = .ok ((), pre ++ closing :: rest) → loop (fuel + 1) s = .ok ((), rest)

namespace Loops
variable {entry loop : Nat → Reading Unit} {opening closing : Char}
  (loops : Loops entry loop opening closing) {final : List Char} {fuel : Nat}
include loops

private theorem apart_closing (s : List Char) : Apart (closing :: s) := by
  rcases loops.brackets with ⟨-, rfl⟩ | ⟨-, rfl⟩ <;> exact apart_cons rfl (by decide) s

private theorem opening_head : blank opening = false ∧ opening ≠ ']' ∧ opening ≠ '\x7d' := by
  rcases loops.brackets with ⟨rfl, -⟩ | ⟨rfl, -⟩ <;> decide

private theorem padded {e : Padded} (passed : Passed entry e.core) (enough : 2 * e.chars.length ≤ fuel)
    {rest : List Char} (apart : Apart rest) : entry fuel (e.chars ++ rest) = .ok ((), e.after ++ rest) := by
  unfold Padded.chars at enough ⊢
  simp only [List.length_append] at enough
  rw [List.append_assoc, List.append_assoc, loops.blanks _ _ _ e.before_blank]
  exact passed.run fuel _ (by omega) (apart_blanks e.after_blank apart)

/-- All entries are passed, up to the closing bracket. -/
theorem run (hfinal : ∀ c ∈ final, blank c = true) (rest : List Char) {first : Padded}
    {others : List Padded} (each : ∀ e ∈ first :: others, Passed entry e.core)
    (enough : 2 * (first.chars ++ following others).length < fuel) :
    loop fuel (first.chars ++ (following others ++ (final ++ closing :: rest))) = .ok ((), rest) := by
  induction others generalizing first fuel with
  | nil =>
    obtain ⟨fuel, rfl⟩ : ∃ k, fuel = k + 1 := ⟨fuel - 1, by omega⟩
    rw [List.length_append] at enough
    have passed : entry fuel (first.chars ++ (final ++ closing :: rest)) =
        .ok ((), first.after ++ (final ++ closing :: rest)) :=
      loops.padded (each first (by simp)) (by omega) (apart_blanks hfinal (loops.apart_closing rest))
    rw [← List.append_assoc first.after] at passed
    exact loops.last fuel _ _ rest (List.forall_mem_append.mpr ⟨first.after_blank, hfinal⟩) passed
  | cons e others ih =>
    obtain ⟨fuel, rfl⟩ : ∃ k, fuel = k + 1 := ⟨fuel - 1, by omega⟩
    simp only [following_cons, List.cons_append, List.append_assoc, List.length_append,
      List.length_cons] at enough ih ⊢
    rw [loops.next fuel _ first.after _ first.after_blank
      (loops.padded (each first (by simp)) (by omega) (apart_cons rfl (by decide) _))]
    exact ih (fun e there => each e (List.mem_cons_of_mem _ there)) (by omega)

/-- Entries between brackets are one value. -/
theorem enclosed (hfinal : ∀ c ∈ final, blank c = true) {entries : List Padded}
    (each : ∀ e ∈ entries, Passed entry e.core) :
    Passed passValue (opening :: (separated entries ++ (final ++ [closing]))) := by
  refine ⟨⟨opening, _, rfl, loops.opening_head⟩, fun fuel rest enough apart => ?_⟩
  rw [List.length_cons] at enough
  obtain ⟨fuel, rfl⟩ : ∃ k, fuel = k + 1 := ⟨fuel - 1, by omega⟩
  cases entries with
  | nil => simpa [separated] using loops.empty fuel final rest hfinal
  | cons first others =>
    obtain ⟨c, tail, core, solid, list, record⟩ := (each first (by simp)).head
    have other : c ≠ closing := by
      rcases loops.brackets with ⟨-, rfl⟩ | ⟨-, rfl⟩
      · exact list
      · exact record
    let bare : Padded := { first with before := [], before_blank := blank_nil }
    have entries : ∀ e ∈ bare :: others, Passed entry e.core := List.forall_mem_cons.mpr
      ⟨each first (by simp), fun e there => each e (List.mem_cons_of_mem _ there)⟩
    have whole : first.chars = first.before ++ bare.chars := by simp [Padded.chars, bare]
    have bare_chars : bare.chars = c :: (tail ++ first.after) := by simp [Padded.chars, bare, core]
    have passed := loops.run hfinal rest entries (show _ < fuel by
      simp only [separated, whole, List.length_append] at enough ⊢
      omega)
    have opened := loops.opened fuel first.before c
      (tail ++ (first.after ++ (following others ++ (final ++ closing :: rest)))) first.before_blank solid other
    simp only [separated, whole, bare_chars, List.cons_append, List.append_assoc,
      List.nil_append] at opened passed ⊢
    rw [opened, passed]

end Loops
end Reading
end Clickstream.Json
