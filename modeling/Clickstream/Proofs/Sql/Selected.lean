import Clickstream.Proofs.Sql.Tail.Step
import Clickstream.Sql.Grammar.Statement

/-! What must have been read where a text is read as one plain select. -/
namespace Clickstream.Sql
open Sql.Parser

section Selected
variable {lower : Level} {tokens r : List Token} {s : Select}

theorem keyword?_head (key : String) (tokens : List Token) : keyword? key tokens =
    if tokens.head?.any (Token.isKeyword key) then some (true, tokens.tail) else some (false, tokens) := by
  cases tokens with
  | nil => rfl
  | cons t tokens => exact Parser.pass?_cons (Token.isKeyword key) t tokens

/-- Operators are applied to a body, or it is left as it is. -/
theorem bodyRest_cases {right : Nat → Parser Body} {bound : Nat} : ∀ {rounds : Nat} {left found : Body}
    {tokens : List Token}, bodyRest right bound left rounds tokens = some (found, r) →
      found = left ∨ ∃ operator a b, found = .combined operator a b
  | 0, _, _, _, read => by cases read
  | rounds + 1, left, found, tokens, read => by
    obtain ⟨operator?, ys, -, read⟩ := Parser.bind_some.mp read
    cases operator? with
    | none =>
      cases read
      exact .inl rfl
    | some found_ =>
      obtain ⟨operator, strength⟩ := found_
      by_cases weak : strength ≤ bound
      · simp only [weak, ↓reduceIte] at read
        cases read
        exact .inl rfl
      · simp only [weak, ↓reduceIte] at read
        obtain ⟨-, ys, -, read⟩ := Parser.bind_some.mp read
        obtain ⟨-, ys, -, read⟩ := Parser.bind_some.mp read
        obtain ⟨b, ys, -, read⟩ := Parser.bind_some.mp read
        rcases bodyRest_cases read with rfl | combined
        · exact .inr ⟨operator, left, b, rfl⟩
        · exact .inr combined

theorem body_select {fuel bound : Nat}
    (read : body lower fuel bound (.word "SELECT" "SELECT" false :: tokens) = some (.select s, r)) :
    ∃ r', select lower tokens = some (s, r') := by
  cases fuel with
  | zero => cases read
  | succ fuel =>
    obtain ⟨left, ys, first, read⟩ := Parser.bind_some.mp read
    obtain ⟨-, ys', -, read⟩ := Parser.bind_some.mp read
    obtain ⟨selected, ys'', first, made⟩ := Parser.bind_some.mp
      (show (select lower >>= fun s => pure (.select s) : Parser Body) tokens = some (left, ys) from first)
    cases made
    rcases bodyRest_cases read with is | ⟨operator, a, b, is⟩
    · cases is
      exact ⟨_, first⟩
    · cases is

theorem query_select {tables : List Cte} {clauses : List Clause}
    (read : query lower (.word "SELECT" "SELECT" false :: tokens) =
      some (.query tables (.select s) clauses, r)) : ∃ r', select lower tokens = some (s, r') := by
  obtain ⟨found, ys, body_, read⟩ := Parser.bind_some.mp
    (show (body lower 3 0 >>= fun body => do
      let order ← listed? ["ORDER", "BY"] .orderBy (orderItem lower)
      let limits ← limits lower
      let fetch ← fetch?
      let locks ← locks ((← get).length + 1)
      return .query [] body (order ++ limits ++ fetch ++ locks) : Parser Query)
        (.word "SELECT" "SELECT" false :: tokens) = some (.query tables (.select s) clauses, r) from read)
  obtain ⟨order, ys, -, read⟩ := Parser.bind_some.mp read
  obtain ⟨limits, ys, -, read⟩ := Parser.bind_some.mp read
  obtain ⟨fetch, ys, -, read⟩ := Parser.bind_some.mp read
  obtain ⟨here, ys, -, read⟩ := Parser.bind_some.mp read
  obtain ⟨locks, ys, -, read⟩ := Parser.bind_some.mp read
  cases read
  exact body_select body_

theorem statement_query {q : Query}
    (read : statement nestingLimit (.word "SELECT" "SELECT" false :: tokens) = some (.query q, r)) :
    query (level 48) (.word "SELECT" "SELECT" false :: tokens) = some (q, r) := by
  obtain ⟨found, ys, read, made⟩ := Parser.bind_some.mp
    (show (query (level 48) >>= fun q => pure (.query q) : Parser Statement)
      (.word "SELECT" "SELECT" false :: tokens) = some (.query q, r) from read)
  cases made
  exact read

/-- The only statement in a text that begins with a select. -/
theorem readAll_select {text : String} {tables : List Cte} {clauses : List Clause}
    (cut : tokenize text = some (.word "SELECT" "SELECT" false :: tokens))
    (read : Statement.readAll text = some [.query (.query tables (.select s) clauses)]) :
    ∃ r, select (level 48) tokens = some (s, r) := by
  unfold Statement.readAll at read
  rw [cut, Option.bind_eq_bind, Option.bind_some] at read
  obtain ⟨⟨found, after⟩, read, same⟩ := Option.bind_eq_some_iff.mp read
  cases same
  obtain ⟨first, ys, one, read⟩ := Parser.bind_some.mp
    (show (statement nestingLimit >>= fun first => do
      if (← get).isEmpty || (← keywordAhead "END") then return [first]
      unless ← markAhead ";" do fail
      return first :: (← statements (statement nestingLimit) (tokens.length + 1)))
        (.word "SELECT" "SELECT" false :: tokens) = some (_, after) from read)
  have is : first = .query (.query tables (.select s) clauses) := by
    obtain ⟨here, ys, -, read⟩ := Parser.bind_some.mp read
    obtain ⟨ends, ys, -, read⟩ := Parser.bind_some.mp read
    by_cases last : (here.isEmpty || ends) = true
    · simp only [last, ↓reduceIte] at read
      cases read
      rfl
    · simp only [last] at read
      obtain ⟨ahead, ys, -, read⟩ := Parser.bind_some.mp read
      cases ahead with
      | false => cases read
      | true =>
        obtain ⟨others, ys, -, made⟩ := Parser.bind_some.mp read
        cases made
        rfl
  subst is
  exact query_select (statement_query one)

/-- What comes after the sources of a select. -/
def selectEnd (lower : Level) (quantifier_ : Quantifier) (first : List Clause) (items : List Item)
    (into : List Clause) (sources : List Source) : Parser Select := do
  let views ← lateralViews lower
  let condition ← one? lower "WHERE" .where
  let groups ← groupBy? lower
  let cluster ← listed? ["CLUSTER", "BY"] .clusterBy (lower.expr 0)
  let distribute ← listed? ["DISTRIBUTE", "BY"] .distributeBy (lower.expr 0)
  let sort ← listed? ["SORT", "BY"] .sortBy (lower.expr 0)
  let having ← one? lower "HAVING" .having
  let before ← windows? lower
  let qualify ← one? lower "QUALIFY" .qualify
  let after ← do
    if before.isEmpty && !qualify.isEmpty then windows? lower else pure []
  return .select quantifier_ items sources (first ++ into ++ views ++ condition ++ groups ++
    cluster ++ distribute ++ sort ++ having ++ before ++ qualify ++ after)

theorem selectEnd_parts {quantifier_ quantifier' : Quantifier} {first into clauses : List Clause}
    {items items' : List Item} {sources sources' : List Source}
    (read : selectEnd lower quantifier_ first items into sources tokens =
      some (.select quantifier' items' sources' clauses, r)) :
    quantifier_ = quantifier' ∧ items = items' ∧ sources = sources' ∧
      ∃ more, clauses = first ++ (into ++ more) := by
  obtain ⟨views, ys, -, read⟩ := Parser.bind_some.mp read
  obtain ⟨condition, ys, -, read⟩ := Parser.bind_some.mp read
  obtain ⟨groups, ys, -, read⟩ := Parser.bind_some.mp read
  obtain ⟨cluster, ys, -, read⟩ := Parser.bind_some.mp read
  obtain ⟨distribute, ys, -, read⟩ := Parser.bind_some.mp read
  obtain ⟨sort, ys, -, read⟩ := Parser.bind_some.mp read
  obtain ⟨having, ys, -, read⟩ := Parser.bind_some.mp read
  obtain ⟨before, ys, -, read⟩ := Parser.bind_some.mp read
  obtain ⟨qualify, ys, -, read⟩ := Parser.bind_some.mp read
  have made : ∃ after, (.select quantifier_ items sources (first ++ into ++ views ++ condition ++
      groups ++ cluster ++ distribute ++ sort ++ having ++ before ++ qualify ++ after) : Select) =
        .select quantifier' items' sources' clauses := by
    split at read
    · obtain ⟨after, ys, -, read⟩ := Parser.bind_some.mp read
      cases read
      exact ⟨after, rfl⟩
    · cases read
      exact ⟨[], rfl⟩
  obtain ⟨after, made⟩ := made
  cases made
  exact ⟨rfl, rfl, rfl, views ++ condition ++ groups ++ cluster ++ distribute ++ sort ++ having ++
    before ++ qualify ++ after, by simp only [List.append_assoc]⟩

/-- Items with a mark between them: the first, and others if the mark follows it. -/
theorem separated_cons {α : Type} {separator : String} {item : Parser α} {xs : List α} :
    ∀ {fuel : Nat} {tokens : List Token}, separated separator item fuel tokens = some (xs, r) →
      ∃ x others ys, xs = x :: others ∧ item tokens = some (x, ys) ∧
        (others = [] → r = ys ∧ ys.head? ≠ some (.mark separator))
  | 0, _, read => by cases read
  | fuel + 1, tokens, read => by
    obtain ⟨x, ys, first, read⟩ := Parser.bind_some.mp read
    obtain ⟨more, ys', marked, read⟩ := Parser.bind_some.mp read
    cases more with
    | true =>
      obtain ⟨others, ys'', later, made⟩ := Parser.bind_some.mp read
      cases made
      obtain ⟨y, others, -, rfl, -⟩ := separated_cons later
      exact ⟨x, y :: others, ys, rfl, first, fun none_ => by cases none_⟩
    | false =>
      cases read
      have stays : r = ys ∧ ys.head? ≠ some (.mark separator) := by
        cases ys with
        | nil =>
          cases marked
          exact ⟨rfl, by simp⟩
        | cons t ys =>
          have passed := (Parser.pass?_cons (Token.isMark separator) t ys).symm.trans marked
          split at passed
          · cases passed
          · rename_i other
            cases passed
            refine ⟨rfl, ?_⟩
            rintro ⟨rfl⟩
            simp [Token.isMark] at other
      exact ⟨x, [], ys, rfl, first, fun _ => stays⟩

theorem list_ne_nil {α : Type} {item : Parser α} {xs : List α} (read : list item tokens = some (xs, r)) :
    xs ≠ [] := by
  obtain ⟨here, ys, -, read⟩ := Parser.bind_some.mp read
  obtain ⟨x, others, -, rfl, -⟩ := separated_cons read
  exact List.cons_ne_nil x others

/-- A select whose items stop before some tokens: what it selects into and from is read there. -/
theorem select_parts {quantifier_ : Quantifier} {items : List Item} {sources : List Source}
    {clauses : List Clause}
    (read : select lower tokens = some (.select quantifier_ items sources clauses, r)) :
    ∃ first tokens₁ tokens₂ into tokens₃ more,
      quantifier lower tokens = some ((quantifier_, first), tokens₁) ∧
      list (selectItem lower) tokens₁ = some (items, tokens₂) ∧
      into? tokens₂ = some (into, tokens₃) ∧ clauses = first ++ (into ++ more) ∧
      (sources = [] ↔ tokens₃.head?.any (Token.isKeyword "FROM") = false) := by
  obtain ⟨⟨quantifier_, first⟩, tokens₁, quantified, read⟩ := Parser.bind_some.mp read
  obtain ⟨items, tokens₂, listed, read⟩ := Parser.bind_some.mp read
  obtain ⟨into, tokens₃, targeted, read⟩ := Parser.bind_some.mp read
  obtain ⟨from_, tokens₄, named, read⟩ := Parser.bind_some.mp read
  rw [keyword?_head] at named
  cases from_ with
  | true =>
    obtain ⟨sources', ys, sourced, read⟩ := Parser.bind_some.mp read
    obtain ⟨rfl, rfl, rfl, more, rfl⟩ := selectEnd_parts read
    refine ⟨first, tokens₁, tokens₂, into, tokens₃, more, quantified, listed, targeted, rfl, ?_⟩
    split at named
    · rename_i ahead
      simp [list_ne_nil sourced, ahead]
    · cases named
  | false =>
    obtain ⟨rfl, rfl, rfl, more, rfl⟩ := selectEnd_parts read
    refine ⟨first, tokens₁, tokens₂, into, tokens₃, more, quantified, listed, targeted, rfl, ?_⟩
    split at named
    · cases named
    · rename_i other
      simpa using other

/-- Words that a select reads before its items. -/
def leadingWords : List String := ["ALL", "DISTINCT", "ON", "TOP"]

/-- The tokens begin with no word that a select reads before its items. -/
def Unled (tokens : List Token) : Prop :=
  ∀ key ∈ leadingWords, tokens.head?.any (Token.isKeyword key) = false

instance : Decidable (Unled tokens) :=
  inferInstanceAs (Decidable (∀ key ∈ leadingWords, tokens.head?.any (Token.isKeyword key) = false))

theorem keyword?_absent {key : String} (absent : tokens.head?.any (Token.isKeyword key) = false) :
    keyword? key tokens = some (false, tokens) := by
  rw [keyword?_head, absent]
  rfl

theorem into?_absent (absent : tokens.head?.any (Token.isKeyword "INTO") = false) :
    into? tokens = some ([], tokens) :=
  (Parser.bind_of_some (keyword?_absent absent) _).trans rfl

/-- Nothing is selected into only where the word is absent. -/
theorem into?_nil (read : into? tokens = some ([], r)) :
    r = tokens ∧ tokens.head?.any (Token.isKeyword "INTO") = false := by
  cases ahead : tokens.head?.any (Token.isKeyword "INTO") with
  | false =>
    rw [into?_absent ahead] at read
    cases read
    exact ⟨rfl, rfl⟩
  | true =>
    obtain ⟨found, ys, passed, read⟩ := Parser.bind_some.mp read
    rw [keyword?_head, ahead] at passed
    cases passed
    obtain ⟨-, ys, -, read⟩ := Parser.bind_some.mp read
    obtain ⟨-, ys, -, read⟩ := Parser.bind_some.mp read
    obtain ⟨-, ys, -, read⟩ := Parser.bind_some.mp read
    obtain ⟨-, ys, -, read⟩ := Parser.bind_some.mp read
    cases read

theorem quantifier_unled (h : Unled tokens) : quantifier lower tokens = some ((.all, []), tokens) := by
  refine (Parser.bind_of_some (keyword?_absent (h "ALL" (by decide))) _).trans ?_
  refine (Parser.bind_of_some (keyword?_absent (h "DISTINCT" (by decide))) _).trans ?_
  simp only [Bool.and_self, Bool.false_eq_true, ↓reduceIte, Bool.not_false, pure_bind]
  exact (Parser.bind_of_some (keyword?_absent (h "TOP" (by decide))) _).trans rfl

theorem quantifier_distinct (h : Unled tokens) :
    quantifier lower (.word "DISTINCT" "DISTINCT" false :: tokens) = some ((.distinct, []), tokens) := by
  refine (Parser.bind_of_some (a := false) (r := .word "DISTINCT" "DISTINCT" false :: tokens) rfl _).trans ?_
  refine (Parser.bind_of_some (a := true) (r := tokens) rfl _).trans ?_
  simp only [Bool.and_true, Bool.not_true, Bool.false_eq_true, ↓reduceIte]
  refine (Parser.bind_of_some (keyword?_absent (h "ON" (by decide))) _).trans ?_
  simp only [Bool.false_eq_true, ↓reduceIte, pure_bind]
  exact (Parser.bind_of_some (keyword?_absent (h "TOP" (by decide))) _).trans rfl

theorem quantifier_first (h : Unled tokens) (distinct : Bool) :
    quantifier lower ((if distinct then [.word "DISTINCT" "DISTINCT" false] else []) ++ tokens) =
      some ((if distinct then .distinct else .all, []), tokens) := by
  cases distinct with
  | true => exact quantifier_distinct h
  | false => exact quantifier_unled h

end Selected
end Clickstream.Sql
