import Clickstream.Proofs.Number.Numeral
import Clickstream.Proofs.Query.Statement
import Clickstream.Proofs.Sql.Clauses
import Clickstream.Proofs.Sql.Lexer.Tokens

/-! Compiled statements, cut into tokens. -/
namespace Clickstream
open Sql

namespace Sql.Lexer

/-- The text is cut into these tokens, and its length is fuel enough. -/
def Cut (cs : List Char) (ts : List Token) : Prop := tokens cs.length cs = some ts

section Cut
variable {cs z : List Char} {ts others : List Token}

theorem Cut.nil : Cut [] [] := rfl

theorem Cut.step {c : Char} {cs rest : List Char} {token? : Option Token}
    (stepped : Lexer.step (c :: cs) = some (token?, rest)) (shorter : rest.length ≤ cs.length)
    (after : Cut rest others) : Cut (c :: cs) (token?.toList ++ others) := by
  have enough : tokens cs.length rest = some others := by
    have := tokens_more (cs.length - rest.length) after
    rwa [Nat.add_sub_cancel' shorter] at this
  exact tokens_cons.mpr ⟨token?, rest, others, stepped, enough, rfl⟩

/-- A blank is no token. -/
theorem Cut.space (after : Cut z others) : Cut (' ' :: z) others := by
  have stepped : Lexer.step (' ' :: z) = some (none, z) := rfl
  exact Cut.step stepped (Nat.le_refl _) after

/-- Texts are cut as they are alone, where a comma after them would be a token of its own. -/
theorem Cut.text {fuel fuel' : Nat} (alone : tokens fuel cs = some ts)
    (comma : tokens fuel' (cs ++ [',']) = some (ts ++ [.mark ","])) (stops : Stops z)
    (after : Cut z others) : Cut (cs ++ z) (ts ++ others) := by
  have := tokens_append stops alone comma after
  rwa [Nat.add_comm, ← List.length_append] at this

theorem Special.not_digit {c : Char} (h : Special c cs) : c.isDigit = false := by
  cases h with
  | blank h | prefixed h | escaped h | unicode h =>
    simp only [List.mem_cons, List.not_mem_nil, or_false] at h
    rcases h with rfl | rfl | rfl | rfl <;> rfl
  | _ => rfl

/-- A whole number, before a text that ends a token. -/
theorem Cut.number (n : Nat) (stops : Stops z) (after : Cut z others) :
    Cut ((toString n).toList ++ z) (.number (toString n) false :: others) := by
  have digits := digits_toString n
  obtain ⟨d, ds, is⟩ : ∃ d ds, (toString n).toList = d :: ds :=
    List.exists_cons_of_ne_nil (toString_toList n ▸ Nat.toDigits_ne_nil)
  have stepped : Lexer.step (d :: ds ++ z) = some (some (.number (toString n) false), z) := by
    rw [is] at digits
    have text : toString n = String.ofList (d :: ds) := by rw [← is, String.ofList_toList]
    rw [List.cons_append, step_other fun special => ?_, if_pos (digits d (by simp)), text]
    · exact number_digits digits stops
    · have := digits d (by simp)
      rw [special.not_digit] at this
      cases this
  rw [is]
  exact Cut.step stepped (by simp) after

end Cut
end Sql.Lexer

open Lexer

/-- A comma after the part's text is a token of its own. -/
structure Sql.Part.Apart (part : Part) : Prop where
  alone : tokenize part.text = some part.tokens
  comma : tokenize (part.text ++ ",") = some (part.tokens ++ [.mark ","])

section Statement
variable {z : List Char} {others : List Token}

theorem Sql.Part.Apart.cut {part : Part} (apart : part.Apart) (stops : Stops z) (after : Cut z others) :
    Cut (part.text.toList ++ z) (part.tokens ++ others) := by
  have comma := apart.comma
  rw [tokenize, String.toList_append] at comma
  exact Cut.text apart.alone comma stops after

/-- The texts that compiled statements have in common, and their tokens. -/
def fixedTexts : List (String × List Token) := [
  (",", [.mark ","]),
  ("SELECT", [.word "SELECT" "SELECT" false]),
  ("SELECT DISTINCT", [.word "SELECT" "SELECT" false, .word "DISTINCT" "DISTINCT" false]),
  ("FROM events", [.word "FROM" "FROM" false, events]),
  ("GROUP BY", [.word "GROUP" "GROUP" false, .word "BY" "BY" false]),
  ("LIMIT", [.word "LIMIT" "LIMIT" false])]

private theorem fixed_tokens : ∀ fixed ∈ fixedTexts, tokenize fixed.1 = some fixed.2 ∧
    tokenize (fixed.1 ++ ",") = some (fixed.2 ++ [.mark ","]) := by
  decide +kernel

theorem fixed_cut {text : String} {ts : List Token} (fixed : (text, ts) ∈ fixedTexts)
    (stops : Stops z) (after : Cut z others) : Cut (text.toList ++ z) (ts ++ others) := by
  obtain ⟨alone, comma⟩ := fixed_tokens _ fixed
  rw [tokenize, String.toList_append] at comma
  exact Cut.text alone comma stops after

theorem Sql.Lexer.Cut.separator (after : Cut z others) : Cut (',' :: ' ' :: z) (.mark "," :: others) := by
  have comma : (",", [Token.mark ","]) ∈ fixedTexts := by simp [fixedTexts]
  simpa using fixed_cut comma (by simp [Stops]) after.space

theorem Sql.Lexer.Cut.select (after : Cut z others) :
    Cut ("SELECT ".toList ++ z) (.word "SELECT" "SELECT" false :: others) := by
  have word : ("SELECT", [.word "SELECT" "SELECT" false]) ∈ fixedTexts := by simp [fixedTexts]
  have text : "SELECT ".toList = "SELECT".toList ++ [' '] := rfl
  rw [text]
  simpa using fixed_cut word (by simp [Stops]) after.space

/-- Texts with commas between them are cut into their tokens, with commas between them. -/
theorem cut_columns (stops : Stops z) (after : Cut z others) : ∀ {parts : List Part}, parts ≠ [] →
    (∀ part ∈ parts, part.Apart) →
    Cut ((", ".intercalate (parts.map Part.text)).toList ++ z) (commaed parts ++ others)
  | [], some_, _ => absurd rfl some_
  | [part], _, each => by
    simpa using (each part (by simp)).cut stops after
  | part :: part' :: parts, _, each => by
    have some_ : part' :: parts ≠ [] := by simp
    have later := cut_columns stops after some_ fun p mem => each p (List.mem_cons_of_mem _ mem)
    have separator : ", ".toList = [',', ' '] := rfl
    have first := (each part (by simp)).cut (by simp [Stops]) later.separator
    rw [commaed_cons part some_, List.map_cons, List.map_cons, String.intercalate_cons_cons,
      ← List.map_cons, String.toList_append, String.toList_append, separator]
    simpa using first

/-- So are numbers. -/
theorem cut_numbers (stops : Stops z) (after : Cut z others) : ∀ {ns : List Nat}, ns ≠ [] →
    Cut ((", ".intercalate (ns.map toString)).toList ++ z) (numbers (ns.map toString) ++ others)
  | [], some_ => absurd rfl some_
  | [n], _ => by
    simpa [numbers] using Cut.number n stops after
  | n :: n' :: ns, _ => by
    have some_ : n' :: ns ≠ [] := by simp
    have later := cut_numbers stops after some_
    have separator : ", ".toList = [',', ' '] := rfl
    have first := Cut.number n (by simp [Stops]) later.separator
    rw [List.map_cons, List.map_cons, numbers_cons, String.intercalate_cons_cons, ← List.map_cons,
      String.toList_append, String.toList_append, separator]
    simpa using first

namespace Query

/-- The tokens of the groups, by the position of the dimensions. -/
def groupTokens (q : Query) : List Token :=
  if q.dimensions.isEmpty || q.measures.isEmpty then []
  else .word "GROUP" "GROUP" false :: .word "BY" "BY" false ::
    numbers ((List.range' 1 q.dimensions.length).map toString)

def limitTokens (q : Query) : List Token :=
  match q.limit with
  | none => []
  | some rows => [.word "LIMIT" "LIMIT" false, .number (toString rows) false]

/-- The tokens of a statement whose columns have these parts. -/
def statementTokens (q : Query) (parts : List Part) : List Token :=
  .word "SELECT" "SELECT" false ::
    ((if q.measures.isEmpty then [.word "DISTINCT" "DISTINCT" false] else []) ++
      (commaed parts ++
        .word "FROM" "FROM" false :: events :: (q.groupTokens ++ q.limitTokens)))

theorem limitText_cut (q : Query) : Stops q.limitText.toList ∧ Cut q.limitText.toList q.limitTokens := by
  unfold limitText limitTokens
  cases q.limit with
  | none => exact ⟨by simp [Stops], Cut.nil⟩
  | some rows =>
    have word : ("LIMIT", [.word "LIMIT" "LIMIT" false]) ∈ fixedTexts := by simp [fixedTexts]
    have text : " LIMIT ".toList = ' ' :: ("LIMIT".toList ++ [' ']) := rfl
    have rows_ := Cut.number rows (by simp [Stops]) Cut.nil
    have cut := (fixed_cut word (by simp [Stops]) rows_.space).space
    rw [String.toList_append, text]
    exact ⟨by simp [Stops], by simpa using cut⟩

theorem groupText_cut (q : Query) (stops : Stops z) (after : Cut z others) :
    Stops (q.groupText.toList ++ z) ∧ Cut (q.groupText.toList ++ z) (q.groupTokens ++ others) := by
  unfold groupText groupTokens
  cases apart : q.dimensions.isEmpty || q.measures.isEmpty with
  | true => exact ⟨by simpa using stops, by simpa using after⟩
  | false =>
    have some_ : List.range' 1 q.dimensions.length ≠ [] := by
      simp only [Bool.or_eq_false_iff] at apart
      simpa using apart.1
    have words : ("GROUP BY", [.word "GROUP" "GROUP" false, .word "BY" "BY" false]) ∈ fixedTexts := by
      simp [fixedTexts]
    have text : " GROUP BY ".toList = ' ' :: ("GROUP BY".toList ++ [' ']) := rfl
    have ordinals := cut_numbers stops after some_
    have cut := (fixed_cut words (by simp [Stops]) ordinals.space).space
    simp only [Bool.false_eq_true, ↓reduceIte]
    rw [String.toList_append, text]
    exact ⟨by simp [Stops], by simpa using cut⟩

theorem selectText_cut (q : Query) (after : Cut z others) : Cut (q.selectText.toList ++ z)
    (.word "SELECT" "SELECT" false ::
      ((if q.measures.isEmpty then [.word "DISTINCT" "DISTINCT" false] else []) ++ others)) := by
  unfold selectText
  cases q.measures.isEmpty with
  | true =>
    have words : ("SELECT DISTINCT", [.word "SELECT" "SELECT" false,
        .word "DISTINCT" "DISTINCT" false]) ∈ fixedTexts := by simp [fixedTexts]
    have text : "SELECT DISTINCT ".toList = "SELECT DISTINCT".toList ++ [' '] := rfl
    simp only [↓reduceIte]
    rw [text]
    simpa using fixed_cut words (by simp [Stops]) after.space
  | false => exact after.select

/-- A compiled statement is cut into the tokens of its columns, with commas between them, and of its
clauses. -/
theorem tokenize_statement {q : Query} {parts : List Part} (some_ : parts ≠ [])
    (columns : (q.dimensions ++ q.measures).map Entry.expression = parts.map Part.text)
    (each : ∀ part ∈ parts, part.Apart) :
    tokenize q.statement = some (q.statementTokens parts) := by
  obtain ⟨stops, limit⟩ := q.limitText_cut
  obtain ⟨stops, groups⟩ := q.groupText_cut stops limit
  have words : ("FROM events", [.word "FROM" "FROM" false, events]) ∈ fixedTexts := by
    simp [fixedTexts]
  have from_ := (fixed_cut words stops groups).space
  have cut := q.selectText_cut (cut_columns (by simp [Stops]) from_ some_ each)
  have whole := q.statement_toList
  rw [columns] at whole
  rw [tokenize, ← String.length_toList, whole]
  exact tokens_more 1 cut

end Query

end Statement
end Clickstream
