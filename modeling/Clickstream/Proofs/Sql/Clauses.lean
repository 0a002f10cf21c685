import Clickstream.Proofs.Sql.Tail.Select
import Clickstream.Sql.Grammar.Statement

/-! The clauses that a compiled select may have, as they are read. -/
namespace Clickstream.Sql
open Sql.Parser

section Clauses
variable {lower : Level} {rest : List Token}

/-- The tokens end, or go on with a clause that a compiled select may have. -/
def Ends (tokens : List Token) : Prop :=
  tokens = [] ∨ (∃ rest, tokens = .word "GROUP" "GROUP" false :: rest) ∨
    ∃ rest, tokens = .word "LIMIT" "LIMIT" false :: rest

theorem Ends.keyword? (h : Ends rest) (key : String) (other : key ∉ ["GROUP", "LIMIT"]) :
    keyword? key rest = some (false, rest) := by
  simp only [List.mem_cons, List.not_mem_nil, or_false, not_or] at other
  rcases h with rfl | ⟨rest, rfl⟩ | ⟨rest, rfl⟩
  · rfl
  · simp [Parser.keyword?, Token.isKeyword, Ne.symm other.1]
  · simp [Parser.keyword?, Token.isKeyword, Ne.symm other.2]

theorem Ends.mark? (h : Ends rest) (text : String) : mark? text rest = some (false, rest) := by
  rcases h with rfl | ⟨rest, rfl⟩ | ⟨rest, rfl⟩ <;> rfl

theorem Ends.markAhead (h : Ends rest) (text : String) : markAhead text rest = some (false, rest) := by
  rcases h with rfl | ⟨rest, rfl⟩ | ⟨rest, rfl⟩ <;> rfl

theorem Ends.oneOf? (h : Ends rest) {keys : List String}
    (group : "GROUP" ∉ keys) (limit : "LIMIT" ∉ keys) :
    oneOf? keys rest = some (none, rest) := by
  rcases h with rfl | ⟨rest, rfl⟩ | ⟨rest, rfl⟩
  · rfl
  · rw [Parser.oneOf?_word, if_neg (by simpa using group)]
  · rw [Parser.oneOf?_word, if_neg (by simpa using limit)]

theorem Ends.keywords? (h : Ends rest) (key : String) (keys : List String)
    (other : key ∉ ["GROUP", "LIMIT"]) :
    keywords? (key :: keys) rest = some (false, rest) := by
  have stuck : Parser.keyword key rest = none :=
    (Parser.bind_of_some (h.keyword? key other) _).trans rfl
  have : (key :: keys).forM Parser.keyword rest = none :=
    Parser.bind_none.mpr (by simp [stuck])
  exact (Parser.bind_of_some (a := none) (r := rest) (by simp [attempt, this]) _).trans rfl

theorem Ends.tableAlias? (h : Ends rest) : tableAlias? rest = some (none, rest) := by
  have none_ : alias? Keyword.notTableAlias rest = some (none, rest) := by
    refine (Parser.bind_of_some (h.keyword? "AS" (by decide)) _).trans ?_
    rcases h with rfl | ⟨rest, rfl⟩ | ⟨rest, rfl⟩
    · rfl
    · refine (Parser.bind_of_some (Parser.peek?_eq _) _).trans ?_
      exact congrFun (if_neg (by simpa using Keyword.group_mem_notTableAlias)) _
    · refine (Parser.bind_of_some (Parser.peek?_eq _) _).trans ?_
      exact congrFun (if_neg (by simpa using Keyword.limit_mem_notTableAlias)) _
  exact (Parser.bind_of_some none_ _).trans rfl

/-- The relation that compiled selects read. -/
def events : Token := .word "events" "EVENTS" false

theorem Ends.path (h : Ends rest) : path (events :: rest) = some ([⟨"events", none⟩], rest) := by
  change separated "." name (rest.length + 1 + 1) (events :: rest) = _
  rw [separated, Parser.bind_of_some (a := ⟨"events", none⟩) (r := rest) rfl]
  exact (Parser.bind_of_some (h.mark? ".") _).trans rfl

theorem Ends.tableOrFunction (h : Ends rest) : Parser.tableOrFunction lower (events :: rest) =
    some (.table [⟨"events", none⟩] none, rest) := by
  refine (Parser.bind_of_some h.path _).trans ?_
  refine (Parser.bind_of_some (h.markAhead "(") _).trans ?_
  simp only [Bool.false_eq_true, ↓reduceIte, pure_bind]
  refine (Parser.bind_of_some (h.keywords? "WITH" _ (by decide)) _).trans ?_
  refine (Parser.bind_of_some h.tableAlias? _).trans ?_
  have stuck : (do Parser.keyword "WITH"; parens (list (lower.expr 0)) : Parser (List Expr)) rest = none := by
    refine Parser.bind_none.mpr fun _ _ read => ?_
    have absent : Parser.keyword "WITH" rest = none :=
      (Parser.bind_of_some (h.keyword? "WITH" (by decide)) _).trans rfl
    rw [absent] at read
    cases read
  refine (Parser.bind_of_some (a := none) (r := rest) (by simp [attempt, stuck]) _).trans ?_
  rfl

theorem Ends.joinWords? (h : Ends rest) : joinWords? rest = some (none, rest) := by
  rcases h with rfl | ⟨rest, rfl⟩ | ⟨rest, rfl⟩ <;> rfl

theorem Ends.source (h : Ends rest) :
    source lower (events :: rest) = some (.table [⟨"events", none⟩] none, rest) := by
  have turned : turns lower (.table [⟨"events", none⟩] none) (rest.length + 1) rest =
      some (.table [⟨"events", none⟩] none, rest) := by
    refine (Parser.bind_of_some (h.oneOf? (by decide) (by decide)) _).trans ?_
    rfl
  have factor_ : factor lower (rest.length + 1 + 1) (events :: rest) =
      some (.table [⟨"events", none⟩] none, rest) := by
    refine Eq.trans (b := turnable lower (Parser.tableOrFunction lower) (events :: rest)) rfl ?_
    refine (Parser.bind_of_some h.tableOrFunction _).trans turned
  refine Eq.trans (b := (factor lower (rest.length + 1 + 1) >>= fun left => do
    return (← joins lower (factor lower (rest.length + 1 + 1)) left (rest.length + 1 + 1)).1) (events :: rest)) rfl ?_
  refine (Parser.bind_of_some factor_ _).trans ?_
  refine (Parser.bind_of_some (a := (.table [⟨"events", none⟩] none, false)) (r := rest) ?_ _).trans rfl
  exact (Parser.bind_of_some h.joinWords? _).trans rfl

/-- The source after `FROM`, and no clause up to the groups. -/
theorem Ends.sources (h : Ends rest) : list (Parser.source lower) (events :: rest) =
    some ([.table [⟨"events", none⟩] none], rest) := by
  change separated "," (Parser.source lower) (rest.length + 1 + 1) (events :: rest) = _
  rw [separated, Parser.bind_of_some h.source]
  exact (Parser.bind_of_some (h.mark? ",") _).trans rfl

theorem Ends.lateralViews (h : Ends rest) : lateralViews lower rest = some ([], rest) := by
  change repeated _ (rest.length + 1) rest = _
  refine (Parser.bind_of_some (a := none) (r := rest) ?_ _).trans rfl
  exact (Parser.bind_of_some (h.keywords? "LATERAL" _ (by decide)) _).trans rfl

theorem Ends.one? (h : Ends rest) (key : String) (kind : ClauseKind)
    (other : key ∉ ["GROUP", "LIMIT"]) : one? lower key kind rest = some ([], rest) :=
  (Parser.bind_of_some (h.keyword? key other) _).trans rfl

theorem Ends.listed? (h : Ends rest) (key : String) (keys : List String) (kind : ClauseKind)
    (item : Parser Expr) (other : key ∉ ["GROUP", "LIMIT"]) :
    listed? (key :: keys) kind item rest = some ([], rest) :=
  (Parser.bind_of_some (h.keywords? key keys other) _).trans rfl

theorem Ends.windows? (h : Ends rest) : windows? lower rest = some ([], rest) :=
  (Parser.bind_of_some (h.keyword? "WINDOW" (by decide)) _).trans rfl

/-- A select whose parts are read in turn, when it has no clause but groups. -/
theorem select_read {tokens tokens' rest' : List Token} {quantifier_ : Quantifier} {items : List Item}
    {groups : List Clause} (first : quantifier lower tokens = some ((quantifier_, []), tokens'))
    (listed : list (selectItem lower) tokens' =
      some (items, .word "FROM" "FROM" false :: events :: rest))
    (grouped : groupBy? lower rest = some (groups, rest')) (h : Ends rest) (h' : Ends rest') :
    select lower tokens = some (.select quantifier_ items [.table [⟨"events", none⟩] none] groups, rest') := by
  refine (Parser.bind_of_some first _).trans ?_
  refine (Parser.bind_of_some listed _).trans ?_
  refine (Parser.bind_of_some (a := []) (r := .word "FROM" "FROM" false :: events :: rest) rfl _).trans ?_
  refine (Parser.bind_of_some (a := true) (r := events :: rest) rfl _).trans ?_
  simp only [↓reduceIte]
  refine (Parser.bind_of_some h.sources _).trans ?_
  refine (Parser.bind_of_some h.lateralViews _).trans ?_
  refine (Parser.bind_of_some (h.one? "WHERE" _ (by decide)) _).trans ?_
  refine (Parser.bind_of_some grouped _).trans ?_
  refine (Parser.bind_of_some (h'.listed? "CLUSTER" _ _ _ (by decide)) _).trans ?_
  refine (Parser.bind_of_some (h'.listed? "DISTRIBUTE" _ _ _ (by decide)) _).trans ?_
  refine (Parser.bind_of_some (h'.listed? "SORT" _ _ _ (by decide)) _).trans ?_
  refine (Parser.bind_of_some (h'.one? "HAVING" _ (by decide)) _).trans ?_
  refine (Parser.bind_of_some h'.windows? _).trans ?_
  refine (Parser.bind_of_some (h'.one? "QUALIFY" _ (by decide)) _).trans ?_
  simp only [List.isEmpty_nil, Bool.not_true, Bool.and_false, Bool.false_eq_true, ↓reduceIte,
    pure_bind, List.append_nil, List.nil_append]
  rfl

/-- The tokens end, or go on with a limit. -/
inductive Limited : List Token → List Clause → Prop
  | none : Limited [] []
  | rows (text : String) : Limited [.word "LIMIT" "LIMIT" false, .number text false]
      [.clause .limit [.literal text]]

theorem Limited.ends {clauses : List Clause} (h : Limited rest clauses) : Ends rest := by
  cases h with
  | none => exact .inl rfl
  | rows text => exact .inr (.inr ⟨_, rfl⟩)

theorem Limited.ungrouped {clauses : List Clause} (h : Limited rest clauses) :
    groupBy? lower rest = some ([], rest) := by
  cases h <;> rfl

/-- A whole number, where nothing binds to it. -/
theorem number_read (depth : Nat) (text : String) (weak : strength rest = 0)
    (plain : keyword? "COLLATE" rest = some (false, rest)) :
    (level (depth + 1)).expr 0 (.number text false :: rest) = some (.literal text, rest) := by
  have operand_ : operand (level depth) (.number text false :: rest) = some (.literal text, rest) := by
    change operandWithin (level depth) (rest.length + 1 + 1) (.number text false :: rest) = _
    refine (Parser.bind_of_some (a := none) (r := .number text false :: rest) rfl _).trans ?_
    refine (Parser.bind_of_some (a := .number text false) (r := rest) rfl _).trans ?_
    refine (Parser.bind_of_some (a := .literal text) (r := rest) rfl _).trans ?_
    exact (Parser.bind_of_some plain _).trans rfl
  refine (Parser.bind_of_some operand_ _).trans ?_
  change (if strength rest ≤ 0 then Pure.pure (.literal text) else _ : Parser Expr) rest = _
  rw [if_pos (Nat.le_of_eq weak)]
  rfl

theorem Limited.limits {clauses : List Clause} (depth : Nat) (h : Limited rest clauses) :
    limits (level (depth + 1)) rest = some (clauses, []) := by
  cases h with
  | none => rfl
  | rows text =>
    have value : (level (depth + 1)).expr 0 [.number text false] = some (.literal text, []) :=
      number_read depth text rfl rfl
    unfold Parser.limits
    dsimp only
    refine (Parser.bind_of_some (a := [.clause .limit [.literal text]]) (r := []) ?_ _).trans rfl
    refine (Parser.bind_of_some (a := true) (r := [.number text false]) rfl _).trans ?_
    refine (Parser.bind_of_some (a := false) (r := [.number text false]) rfl _).trans ?_
    exact (Parser.bind_of_some value _).trans rfl

/-- Whole numbers with commas between them. -/
def numbers (texts : List String) : List Token :=
  [Token.mark ","].intercalate (texts.map fun text => [.number text false])

theorem numbers_cons (text text' : String) (texts : List String) :
    numbers (text :: text' :: texts) =
      .number text false :: .mark "," :: numbers (text' :: texts) := by
  simp [numbers, List.intercalate_cons_cons]

theorem length_numbers : ∀ texts : List String, texts.length ≤ (numbers texts).length
  | [] => Nat.zero_le _
  | [_] => Nat.le_refl _
  | text :: text' :: texts => by
    have := length_numbers (text' :: texts)
    rw [numbers_cons]
    simp only [List.length_cons] at this ⊢
    omega

theorem groupItem_read (depth : Nat) (text : String) (weak : strength rest = 0)
    (plain : keyword? "COLLATE" rest = some (false, rest)) :
    groupItem (level (depth + 1)) (.number text false :: rest) = some (.literal text, rest) := by
  refine (Parser.bind_of_some (a := false) (r := .number text false :: rest) rfl _).trans ?_
  refine (Parser.bind_of_some (a := false) (r := .number text false :: rest) rfl _).trans ?_
  refine (Parser.bind_of_some (a := false) (r := .number text false :: rest) rfl _).trans ?_
  refine (Parser.bind_of_some (a := none) (r := .number text false :: rest) rfl _).trans ?_
  exact number_read depth text weak plain

theorem numbers_read (depth : Nat) {clauses : List Clause} (h : Limited rest clauses) :
    ∀ {texts : List String}, texts ≠ [] → ∀ {fuel : Nat}, texts.length ≤ fuel →
      separated "," (groupItem (level (depth + 1))) fuel (numbers texts ++ rest) =
        some (texts.map Expr.literal, rest)
  | [], some_, _, _ => absurd rfl some_
  | text :: texts, _, 0, enough => absurd enough (Nat.not_succ_le_zero _)
  | [text], _, fuel + 1, _ => by
    have item : groupItem (level (depth + 1)) (numbers [text] ++ rest) = some (.literal text, rest) := by
      cases h with
      | none => exact groupItem_read depth text rfl rfl
      | rows => exact groupItem_read depth text rfl rfl
    rw [separated, Parser.bind_of_some item]
    exact (Parser.bind_of_some (h.ends.mark? ",") _).trans rfl
  | text :: text' :: texts, _, fuel + 1, enough => by
    have some_ : text' :: texts ≠ [] := by simp
    have others := numbers_read depth h some_ (Nat.le_of_succ_le_succ enough)
    rw [numbers_cons, separated]
    refine (Parser.bind_of_some (groupItem_read depth text rfl rfl) _).trans ?_
    refine (Parser.bind_of_some (a := true) (r := numbers (text' :: texts) ++ rest) rfl _).trans ?_
    exact (Parser.bind_of_some others _).trans rfl

theorem groups_read (depth : Nat) {clauses : List Clause} (h : Limited rest clauses) {texts : List String}
    (some_ : texts ≠ []) :
    groupBy? (level (depth + 1))
        (.word "GROUP" "GROUP" false :: .word "BY" "BY" false :: (numbers texts ++ rest)) =
      some ([.clause .groupBy (texts.map .literal)], rest) := by
  have listed : list (groupItem (level (depth + 1))) (numbers texts ++ rest) =
      some (texts.map Expr.literal, rest) := by
    refine numbers_read depth h some_ ?_
    have := length_numbers texts
    simp only [List.length_append]
    omega
  have each : keyword? "ALL" (numbers texts ++ rest) = some (false, numbers texts ++ rest) := by
    match texts with
    | [] => exact absurd rfl some_
    | [_] => rfl
    | _ :: _ :: _ => rfl
  refine (Parser.bind_of_some (a := true) (r := numbers texts ++ rest) rfl _).trans ?_
  refine (Parser.bind_of_some each _).trans ?_
  exact (Parser.bind_of_some listed _).trans rfl

/-- A compiled select is read as a query of it alone, with the limit as its clause. -/
theorem query_read (depth : Nat) {tokens : List Token} {s : Select} {clauses : List Clause}
    (selected : select (level (depth + 1)) tokens = some (s, rest)) (h : Limited rest clauses) :
    query (level (depth + 1)) (.word "SELECT" "SELECT" false :: tokens) =
      some (.query [] (.select s) clauses, []) := by
  have operand_ : bodyOperand (level (depth + 1)) (.word "SELECT" "SELECT" false :: tokens) =
      some (.select s, rest) := by
    refine (Parser.bind_of_some (a := true) (r := tokens) rfl _).trans ?_
    exact (Parser.bind_of_some selected _).trans rfl
  have body_ : body (level (depth + 1)) 3 0 (.word "SELECT" "SELECT" false :: tokens) =
      some (.select s, rest) := by
    refine (Parser.bind_of_some operand_ _).trans ?_
    cases h <;> rfl
  refine (Parser.bind_of_some (a := false) (r := .word "SELECT" "SELECT" false :: tokens) rfl _).trans ?_
  refine (Parser.bind_of_some (a := []) (r := .word "SELECT" "SELECT" false :: tokens) rfl _).trans ?_
  refine (Parser.bind_of_some (a := false) (r := .word "SELECT" "SELECT" false :: tokens) rfl _).trans ?_
  refine (Parser.bind_of_some (a := false) (r := .word "SELECT" "SELECT" false :: tokens) rfl _).trans ?_
  refine (Parser.bind_of_some body_ _).trans ?_
  refine (Parser.bind_of_some (h.ends.listed? "ORDER" _ _ _ (by decide)) _).trans ?_
  refine (Parser.bind_of_some (h.limits depth) _).trans ?_
  refine (Parser.bind_of_some (a := []) (r := []) rfl _).trans ?_
  refine (Parser.bind_of_some (a := []) (r := []) rfl _).trans ?_
  refine (Parser.bind_of_some (a := []) (r := []) rfl _).trans ?_
  simp only [List.append_nil, List.nil_append]
  rfl

/-- It is the only statement. -/
theorem statements_read {tokens : List Token} {q : Query} (fuel : Nat)
    (read : query (level 48) (.word "SELECT" "SELECT" false :: tokens) = some (q, [])) :
    (statements (statement nestingLimit) (fuel + 1)) (.word "SELECT" "SELECT" false :: tokens) =
      some ([.query q], []) := by
  have one : statement nestingLimit (.word "SELECT" "SELECT" false :: tokens) = some (.query q, []) := by
    refine (Parser.bind_of_some (a := true) (r := .word "SELECT" "SELECT" false :: tokens) rfl _).trans ?_
    refine (Parser.bind_of_some (a := false) (r := .word "SELECT" "SELECT" false :: tokens) rfl _).trans ?_
    refine (Parser.bind_of_some (a := false) (r := .word "SELECT" "SELECT" false :: tokens) rfl _).trans ?_
    exact (Parser.bind_of_some read _).trans rfl
  refine (Parser.bind_of_some (a := ()) (r := .word "SELECT" "SELECT" false :: tokens) rfl _).trans ?_
  refine (Parser.bind_of_some (a := .word "SELECT" "SELECT" false :: tokens)
    (r := .word "SELECT" "SELECT" false :: tokens) rfl _).trans ?_
  refine (Parser.bind_of_some one _).trans ?_
  rfl

end Clauses
end Clickstream.Sql
