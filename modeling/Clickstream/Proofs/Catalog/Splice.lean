import Clickstream.Proofs.Catalog.Validation
import Clickstream.Proofs.Query.Tokens
import Clickstream.Proofs.Sql.Selected
import Clickstream.Query.Compiled

/-! When the statement of accepted entries says what the entries say. A text is checked as a select of
its own, and what follows its expression there may still be passed over. -/
namespace Clickstream
open Sql Sql.Parser

/-- The select of these dimensions and measures: of distinct rows when nothing is measured, by the
position of the dimensions when something is, and with a limit that is not zero. -/
def Sql.Statement.selecting (dimensions measures : List Expr) (rows : Nat) : Statement :=
  .query (.query [] (.select (.select
    (if measures.isEmpty then .distinct else .all)
    ((dimensions ++ measures).map .plain)
    [.table [⟨"events", none⟩] none]
    (if dimensions.isEmpty || measures.isEmpty then []
      else [.clause .groupBy ((List.range' 1 dimensions.length).map fun i => .literal (toString i))])))
    (if rows = 0 then [] else [.clause .limit [.literal (toString rows)]]))

/-- The text is cut into its tokens wherever a comma may follow it, closes the parentheses that it opens,
and begins with no word that belongs to the select. -/
def Confined (text : String) : Prop :=
  ∃ tokens, tokenize text = some tokens ∧ tokenize (text ++ ",") = some (tokens ++ [.mark ","]) ∧
    tidy 0 tokens = true ∧ Unled tokens

/-- An expression is read from the text, and nothing of the text is left. -/
def Exhausted (text : String) : Prop :=
  ∃ tokens e, tokenize text = some tokens ∧ selectItem (level 48) tokens = some (.plain e, [])

/-- A part of a statement that is the text of an accepted entry. -/
structure Sql.Part.Fit (part : Part) : Prop extends part.Apart, part.ReadBy (level 48) where
  bare : bareExpression part.text = .ok part.expr
  unled : Unled part.tokens
  comma_absent : part.left.head? ≠ some (.mark ",")
  into_absent : part.left.head?.any (Token.isKeyword "INTO") = false
  from_absent : part.left.head?.any (Token.isKeyword "FROM") = false

/-- What is read from an accepted text, in the select that it is checked in. -/
theorem exists_fit {text : String} {e : Expr} (bare : bareExpression text = .ok e)
    (confined : Confined text) : ∃ part : Part, part.text = text ∧ part.Fit := by
  obtain ⟨tokens, alone, comma, tidy, unled⟩ := confined
  obtain ⟨⟨quantifier_, -, read⟩, -⟩ := bareExpression_ok.mp bare
  have apart : (Sql.Part.mk text tokens e []).Apart := ⟨alone, comma⟩
  have cut : tokenize ("SELECT " ++ text) = some (.word "SELECT" "SELECT" false :: tokens) := by
    have cut := (apart.cut (by simp [Lexer.Stops]) Lexer.Cut.nil).select
    rw [List.append_nil, List.append_nil, ← String.toList_append] at cut
    rw [tokenize, ← String.length_toList]
    exact Lexer.tokens_more 1 cut
  obtain ⟨r, selected⟩ := readAll_select cut read
  obtain ⟨first, tokens₁, tokens₂, into, tokens₃, more, quantified, listed, targeted, clauses,
    sources⟩ := select_parts selected
  rw [quantifier_unled unled] at quantified
  cases quantified
  obtain ⟨rfl, -⟩ : into = [] ∧ more = [] := by simpa using clauses.symm
  obtain ⟨here, ys, got, listed⟩ := Parser.bind_some.mp listed
  cases got
  obtain ⟨x, others, left, items, item, last⟩ := separated_cons listed
  cases items
  obtain ⟨rfl, comma_absent⟩ := last rfl
  obtain ⟨rfl, into_absent⟩ := into?_nil targeted
  exact ⟨⟨text, tokens, e, tokens₃⟩, rfl,
    { alone, comma, tidy, unled, bare, comma_absent, into_absent
      read := item
      from_absent := sources.mp rfl }⟩

/-- What stands before a part in a statement, and what stands after it. -/
theorem commaed_split (goods : List Part) (part : Part) (others : List Part) (rest : List Token) :
    ∃ v : Tail, commaed (goods ++ part :: others) ++ .word "FROM" "FROM" false :: events :: rest =
      goods.flatMap (fun part => part.tokens ++ [.mark ","]) ++ (part.tokens ++ v.tokens) ∧
        (others = [] → v.tokens = .word "FROM" "FROM" false :: events :: rest) := by
  rw [commaed_append]
  by_cases last : others = []
  · subst last
    exact ⟨.source rest, by simp only [commaed_singleton, List.append_assoc]; rfl, fun _ => rfl⟩
  · refine ⟨.comma (commaed others ++ .word "FROM" "FROM" false :: events :: rest), ?_,
      fun none_ => absurd none_ last⟩
    rw [commaed_cons part last]
    simp only [List.append_assoc, List.cons_append]
    rfl

theorem length_goods (goods : List Part) :
    goods.length ≤ (goods.flatMap fun part => part.tokens ++ [.mark ","]).length := by
  induction goods with
  | nil => exact Nat.le_refl _
  | cons good goods ih =>
    simp only [List.flatMap_cons, List.length_append, List.length_cons, List.length_nil]
    omega

/-- The items of a statement are read up to the first that is not read to its end. -/
theorem items_listed {goods : List Part} {part : Part} {v : Tail}
    (each : ∀ part ∈ goods, part.ReadBy (level 48) ∧ part.left = [])
    (read : part.ReadBy (level 48)) (ends : (part.left ++ v.tokens).head? ≠ some (.mark ",")) :
    list (selectItem (level 48))
        (goods.flatMap (fun part => part.tokens ++ [.mark ","]) ++ (part.tokens ++ v.tokens)) =
      some (((goods ++ [part]).map Part.expr).map .plain, part.left ++ v.tokens) := by
  let tokens := goods.flatMap (fun part => part.tokens ++ [.mark ","]) ++ (part.tokens ++ v.tokens)
  have enough : goods.length ≤ tokens.length :=
    Nat.le_trans (length_goods goods) (by simp [tokens])
  have fuel : tokens.length + 1 = goods.length + (tokens.length - goods.length + 1) := by omega
  have item := items_end part v (level_keeps 48) read (tokens.length - goods.length) ends
  have items := items_read (fun v => level_keeps 48) each (tokens.length - goods.length + 1)
    (part.tokens ++ v.tokens)
  change separated "," (selectItem (level 48)) (tokens.length + 1) tokens = _
  rw [fuel, items, item]
  simp

theorem Sql.Part.Fit.tokens_ne_nil {part : Part} (fit : part.Fit) : part.tokens ≠ [] := by
  intro none_
  have read := fit.read
  have nothing : selectItem (level 48) [] = none := rfl
  rw [none_, nothing] at read
  cases read

theorem commaed_unled {parts : List Part} (some_ : parts ≠ []) (each : ∀ part ∈ parts, part.Fit)
    (rest : List Token) : Unled (commaed parts ++ rest) := by
  obtain ⟨part, others, rfl⟩ := List.exists_cons_of_ne_nil some_
  have fit := each part (by simp)
  obtain ⟨t, ts, is⟩ := List.exists_cons_of_ne_nil fit.tokens_ne_nil
  have starts : (commaed (part :: others) ++ rest).head? = part.tokens.head? := by
    by_cases last : others = []
    · subst last
      simp [is]
    · simp [commaed_cons part last, is]
  intro key mem
  rw [starts]
  exact fit.unled key mem

/-- Columns that are all read to their end are the items of their expressions. -/
theorem columns_listed {parts : List Part} (some_ : parts ≠ [])
    (each : ∀ part ∈ parts, part.Fit ∧ part.left = []) (rest : List Token) :
    list (selectItem (level 48)) (commaed parts ++ .word "FROM" "FROM" false :: events :: rest) =
      some ((parts.map Part.expr).map .plain, .word "FROM" "FROM" false :: events :: rest) := by
  obtain ⟨goods, last, rfl⟩ : ∃ goods last, parts = goods ++ [last] :=
    ⟨_, _, (List.dropLast_concat_getLast some_).symm⟩
  obtain ⟨v, split_, tail⟩ := commaed_split goods last [] rest
  have before : ∀ part ∈ goods, part.ReadBy (level 48) ∧ part.left = [] := fun part mem =>
    have ⟨fit, ended⟩ := each part (List.mem_append_left _ mem)
    ⟨fit.toReadBy, ended⟩
  obtain ⟨fit, ended⟩ := each last (by simp)
  have listed := items_listed (v := v) before fit.toReadBy (by simp [ended, tail rfl])
  rw [← split_, ended, tail rfl] at listed
  exact listed

section Statement
variable {ds ms : List Entry} {rows : Nat} {dparts mparts : List Part}

/-- A query as it is set up from its parts. -/
def chosen (ds ms : List Entry) (rows : Nat) : Query :=
  Query.ofSettings [.dimensions ds, .measures ms, .limit rows]

theorem chosen_limited (ds ms : List Entry) (rows : Nat) : Limited (chosen ds ms rows).limitTokens
    (if rows = 0 then [] else [.clause .limit [.literal (toString rows)]]) := by
  by_cases none_ : rows = 0
  · have : (chosen ds ms rows).limitTokens = [] := by
      simp [Query.limitTokens, chosen, Query.ofSettings, Query.set, none_]
    rw [this, if_pos none_]
    exact .none
  · have : (chosen ds ms rows).limitTokens =
        [.word "LIMIT" "LIMIT" false, .number (toString rows) false] := by
      simp [Query.limitTokens, chosen, Query.ofSettings, Query.set, none_]
    rw [this, if_neg none_]
    exact .rows (toString rows)

theorem chosen_groups (depth : Nat) (ds ms : List Entry) (rows : Nat) :
    Ends ((chosen ds ms rows).groupTokens ++ (chosen ds ms rows).limitTokens) ∧
    groupBy? (level (depth + 1)) ((chosen ds ms rows).groupTokens ++ (chosen ds ms rows).limitTokens) =
      some (if ds.isEmpty || ms.isEmpty then []
        else [.clause .groupBy ((List.range' 1 ds.length).map fun i => .literal (toString i))],
        (chosen ds ms rows).limitTokens) := by
  have limited := chosen_limited ds ms rows
  have groups : (chosen ds ms rows).groupTokens = if ds.isEmpty || ms.isEmpty then []
      else .word "GROUP" "GROUP" false :: .word "BY" "BY" false ::
        numbers ((List.range' 1 ds.length).map toString) := rfl
  rw [groups]
  cases one : ds.isEmpty || ms.isEmpty with
  | true => exact ⟨limited.ends, limited.ungrouped⟩
  | false =>
    have some_ : (List.range' 1 ds.length).map (toString : Nat → String) ≠ [] := by
      simp only [Bool.or_eq_false_iff] at one
      simpa using one.1
    refine ⟨.inr (.inl ⟨_, rfl⟩), ?_⟩
    have read := groups_read depth limited some_
    rw [List.map_map] at read
    exact read

theorem selecting_eq {des mes : List Expr} (dcount : des.length = ds.length)
    (mcount : mes.length = ms.length) : Statement.selecting des mes rows =
      .query (.query [] (.select (.select (if ms.isEmpty then .distinct else .all)
        ((des ++ mes).map .plain) [.table [⟨"events", none⟩] none]
        (if ds.isEmpty || ms.isEmpty then []
          else [.clause .groupBy ((List.range' 1 ds.length).map fun i => .literal (toString i))])))
        (if rows = 0 then [] else [.clause .limit [.literal (toString rows)]])) := by
  have dempty : des.isEmpty = ds.isEmpty := by
    cases des <;> cases ds <;> simp_all
  have mempty : mes.isEmpty = ms.isEmpty := by
    cases mes <;> cases ms <;> simp_all
  rw [Statement.selecting, dempty, mempty, dcount]

/-- A statement whose columns are all read to their end is read as the select of their expressions. -/
theorem statement_read (some_ : dparts ++ mparts ≠ [])
    (dtexts : ds.map Entry.expression = dparts.map Part.text)
    (mtexts : ms.map Entry.expression = mparts.map Part.text)
    (each : ∀ part ∈ dparts ++ mparts, part.Fit ∧ part.left = []) :
    Statement.readAll (chosen ds ms rows).statement =
      some [.selecting (dparts.map Part.expr) (mparts.map Part.expr) rows] := by
  have columns : (ds ++ ms).map Entry.expression = (dparts ++ mparts).map Part.text := by
    rw [List.map_append, List.map_append, dtexts, mtexts]
  have cut := Query.tokenize_statement (q := chosen ds ms rows) some_ columns
    fun part mem => (each part mem).1.toApart
  obtain ⟨ends, groups⟩ := chosen_groups 47 ds ms rows
  have limited := chosen_limited ds ms rows
  have unled := commaed_unled some_ (fun part mem => (each part mem).1)
    (.word "FROM" "FROM" false :: events ::
      ((chosen ds ms rows).groupTokens ++ (chosen ds ms rows).limitTokens))
  have selected := select_read (quantifier_first unled ms.isEmpty)
    (columns_listed some_ each _) groups ends limited.ends
  have read := statements_read ((chosen ds ms rows).statementTokens (dparts ++ mparts)).length
    (query_read 47 selected limited)
  have dcount : (dparts.map Part.expr).length = ds.length := by
    simpa using (congrArg List.length dtexts).symm
  have mcount : (mparts.map Part.expr).length = ms.length := by
    simpa using (congrArg List.length mtexts).symm
  unfold Statement.readAll
  rw [cut, selecting_eq dcount mcount, ← List.map_append]
  exact congrArg (Option.bind · fun found => some found.1) read

theorem first_unended : ∀ {parts : List Part}, ¬(∀ part ∈ parts, part.left = []) →
    ∃ goods part others, parts = goods ++ part :: others ∧ (∀ part ∈ goods, part.left = []) ∧
      part.left ≠ []
  | [], some_ => absurd (fun _ mem => by cases mem) some_
  | part :: parts, some_ => by
    by_cases ended : part.left = []
    · obtain ⟨goods, bad, others, rfl, before, more⟩ := first_unended fun all =>
        some_ (List.forall_mem_cons.mpr ⟨ended, all⟩)
      exact ⟨part :: goods, bad, others, rfl, List.forall_mem_cons.mpr ⟨ended, before⟩, more⟩
    · exact ⟨[], part, parts, rfl, (fun _ mem => by cases mem), ended⟩

/-- A statement is not so read if something is left of a column: its items end there, before a relation
is named. -/
theorem statement_read_ended (some_ : dparts ++ mparts ≠ [])
    (dtexts : ds.map Entry.expression = dparts.map Part.text)
    (mtexts : ms.map Entry.expression = mparts.map Part.text)
    (each : ∀ part ∈ dparts ++ mparts, part.Fit) {des mes : List Expr}
    (read : Statement.readAll (chosen ds ms rows).statement = some [.selecting des mes rows]) :
    ∀ part ∈ dparts ++ mparts, part.left = [] := by
  by_cases all : ∀ part ∈ dparts ++ mparts, part.left = []
  · exact all
  exfalso
  obtain ⟨goods, part, others, parts, before, more⟩ := first_unended all
  have columns : (ds ++ ms).map Entry.expression = (dparts ++ mparts).map Part.text := by
    rw [List.map_append, List.map_append, dtexts, mtexts]
  have cut := Query.tokenize_statement (q := chosen ds ms rows) some_ columns
    fun part mem => (each part mem).toApart
  obtain ⟨r, selected⟩ := readAll_select cut read
  obtain ⟨first, tokens₁, tokens₂, into, tokens₃, clauses, quantified, listed, targeted, -, sources⟩ :=
    select_parts selected
  rw [quantifier_first (commaed_unled some_ each _)] at quantified
  obtain ⟨-, rfl⟩ := Prod.mk.inj (Option.some.inj quantified)
  obtain ⟨t, left, is⟩ := List.exists_cons_of_ne_nil more
  have fit := each part (by simp [parts])
  obtain ⟨v, split_, -⟩ := commaed_split goods part others
    ((chosen ds ms rows).groupTokens ++ (chosen ds ms rows).limitTokens)
  have goodsRead : ∀ part ∈ goods, part.ReadBy (level 48) ∧ part.left = [] := fun part mem =>
    ⟨(each part (by simp [parts, mem])).toReadBy, before part mem⟩
  have starts : (part.left ++ v.tokens).head? = part.left.head? := by simp [is]
  rw [parts, split_, items_listed goodsRead fit.toReadBy (starts ▸ fit.comma_absent)] at listed
  obtain ⟨-, rfl⟩ := Prod.mk.inj (Option.some.inj listed)
  rw [into?_absent (starts ▸ fit.into_absent)] at targeted
  cases targeted
  have absent := sources.mpr (starts ▸ fit.from_absent)
  cases absent

end Statement
/-- The text of a part is exhausted exactly if nothing is left of the part. -/
theorem Sql.Part.Fit.exhausted_iff {part : Part} (fit : part.Fit) :
    Exhausted part.text ↔ part.left = [] := by
  constructor
  · rintro ⟨tokens, e, alone, read⟩
    rw [fit.alone] at alone
    cases alone
    rw [fit.read] at read
    exact (Prod.mk.inj (Option.some.inj read)).2
  · intro ended
    have read := fit.read
    rw [ended] at read
    exact ⟨part.tokens, part.expr, fit.alone, read⟩

/-- The parts of accepted entries. -/
theorem exists_parts : ∀ {entries : List Entry},
    (∀ x ∈ entries, ∃ part : Part, part.text = x.expression ∧ part.Fit) →
    ∃ parts : List Part, entries.map Entry.expression = parts.map Part.text ∧ ∀ part ∈ parts, part.Fit
  | [], _ => ⟨[], rfl, fun _ mem => by cases mem⟩
  | x :: entries, each => by
    obtain ⟨⟨part, text, fit⟩, others⟩ := List.forall_mem_cons.mp each
    obtain ⟨parts, texts, fits⟩ := exists_parts others
    exact ⟨part :: parts, by simp [text, texts], List.forall_mem_cons.mpr ⟨fit, fits⟩⟩

theorem mapM_bare : ∀ {entries : List Entry} {parts : List Part},
    entries.map Entry.expression = parts.map Part.text → (∀ part ∈ parts, part.Fit) →
    entries.mapM (fun x => bareExpression x.expression) = .ok (parts.map Part.expr)
  | [], [], _, _ => rfl
  | x :: entries, part :: parts, texts, each => by
    obtain ⟨text, texts⟩ := List.cons.inj texts
    obtain ⟨fit, fits⟩ := List.forall_mem_cons.mp each
    rw [List.mapM_cons, mapM_bare texts fits, text, fit.bare]
    rfl
  | [], part :: parts, texts, _ => by cases texts
  | x :: entries, [], texts, _ => by cases texts

namespace Catalog

/-- The compiled statement of these entries is one select, of the expressions that their texts are
checked as. -/
def Faithful (ds ms : List Entry) (rows : Nat) : Prop :=
  ∃ compiled des mes,
    (Query.ofSettings [.dimensions ds, .measures ms, .limit rows]).compile = .ok compiled ∧
    ds.mapM (fun d => bareExpression d.expression) = .ok des ∧
    ms.mapM (fun m => bareExpression m.expression) = .ok mes ∧
    Statement.readAll compiled.sql = some [.selecting des mes rows]

/-- The statement of accepted entries says what the entries say exactly if each of their texts is
read to its end. -/
theorem faithful_iff_exhausted {c : Catalog} (valid : c.validate = .ok ()) {ds ms : List Entry}
    (dimensions : ∀ d ∈ ds, d ∈ c.dimensions) (measures : ∀ m ∈ ms, m ∈ c.measures)
    (some_ : ds ≠ [] ∨ ms ≠ []) (rows : Nat) (confined : ∀ x ∈ ds ++ ms, Confined x.expression) :
    Faithful ds ms rows ↔ ∀ x ∈ ds ++ ms, Exhausted x.expression := by
  have dfits : ∀ d ∈ ds, ∃ part : Part, part.text = d.expression ∧ part.Fit := fun d mem => by
    obtain ⟨e, bare, -⟩ := Misfit.find?_none.mp (validate_fit valid .dimension d (dimensions d mem))
    exact exists_fit bare (confined d (List.mem_append_left _ mem))
  have mfits : ∀ m ∈ ms, ∃ part : Part, part.text = m.expression ∧ part.Fit := fun m mem => by
    obtain ⟨e, bare, -⟩ := Misfit.find?_none.mp (validate_fit valid .measure m (measures m mem))
    exact exists_fit bare (confined m (List.mem_append_right _ mem))
  obtain ⟨dparts, dtexts, dall⟩ := exists_parts dfits
  obtain ⟨mparts, mtexts, mall⟩ := exists_parts mfits
  have each : ∀ part ∈ dparts ++ mparts, part.Fit := List.forall_mem_append.mpr ⟨dall, mall⟩
  have texts : (ds ++ ms).map Entry.expression = (dparts ++ mparts).map Part.text := by
    rw [List.map_append, List.map_append, dtexts, mtexts]
  have chosen_ : ds ++ ms ≠ [] := fun none_ => by
    obtain ⟨none_, none_'⟩ := List.append_eq_nil_iff.mp none_
    exact some_.elim (absurd none_) (absurd none_')
  have parts_ : dparts ++ mparts ≠ [] := fun none_ => chosen_ (by simpa [none_] using texts)
  have compiles : (chosen ds ms rows).compile =
      .ok ⟨chosen ds ms rows, (chosen ds ms rows).statement⟩ := by
    have empty : (chosen ds ms rows).isEmpty = (ds.isEmpty && ms.isEmpty) := rfl
    rw [Query.compile, empty, if_neg]
    rw [Bool.and_eq_true, List.isEmpty_iff, List.isEmpty_iff]
    rintro ⟨rfl, rfl⟩
    exact chosen_ rfl
  constructor
  · rintro ⟨compiled, des, mes, made, -, -, read⟩ x mem
    have made := compiles.symm.trans made
    cases made
    have ended := statement_read_ended parts_ dtexts mtexts each read
    obtain ⟨part, mem, text⟩ : ∃ part ∈ dparts ++ mparts, part.text = x.expression :=
      List.mem_map.mp (texts ▸ List.mem_map_of_mem mem)
    exact text ▸ (each part mem).exhausted_iff.mpr (ended part mem)
  · intro exhausted
    have ended : ∀ part ∈ dparts ++ mparts, part.Fit ∧ part.left = [] := fun part mem => by
      obtain ⟨x, mem', text⟩ : ∃ x ∈ ds ++ ms, x.expression = part.text :=
        List.mem_map.mp (texts.symm ▸ List.mem_map_of_mem mem)
      exact ⟨each part mem, (each part mem).exhausted_iff.mp (text ▸ exhausted x mem')⟩
    exact ⟨_, _, _, compiles, mapM_bare dtexts dall, mapM_bare mtexts mall,
      statement_read parts_ dtexts mtexts ended⟩

/-- A semicolon after an expression is accepted, and ends the statement before its relation. -/
theorem faithful_iff_exhausted_semicolon :
    Faithful [⟨"k", "Name", "name"⟩] [] 10 ∧ ¬Faithful [⟨"j", "Name", "name;"⟩] [] 10 := by
  let c : Catalog := ⟨[⟨"k", "Name", "name"⟩, ⟨"j", "Name", "name;"⟩], []⟩
  have valid : c.validate = .ok () := by
    have accepted : c.validate.toOption = some () := by decide +kernel
    cases checked : c.validate with
    | ok => rfl
    | error e =>
      rw [checked] at accepted
      cases accepted
  have name : tokenize "name" = some [.word "name" "NAME" false] := by decide +kernel
  have ended : tokenize "name;" = some [.word "name" "NAME" false, .mark ";"] := by decide +kernel
  constructor
  · refine (faithful_iff_exhausted valid (by simp [c]) (by simp) (.inl (by simp)) 10 ?_).mpr ?_
    · simp only [List.append_nil, List.mem_singleton, forall_eq]
      exact ⟨_, name, by decide +kernel, by decide, by decide⟩
    · simp only [List.append_nil, List.mem_singleton, forall_eq]
      exact ⟨_, .column [⟨"name", none⟩], name, rfl⟩
  · intro faithful
    have confined : ∀ x ∈ [Entry.mk "j" "Name" "name;"] ++ [], Confined x.expression := by
      simp only [List.append_nil, List.mem_singleton, forall_eq]
      exact ⟨_, ended, by decide +kernel, by decide, by decide⟩
    obtain ⟨tokens, e, alone, read⟩ := (faithful_iff_exhausted valid (by simp [c]) (by simp)
      (.inl (by simp)) 10 confined).mp faithful ⟨"j", "Name", "name;"⟩ (by simp)
    rw [ended] at alone
    cases alone
    have left : selectItem (level 48) [.word "name" "NAME" false, .mark ";"] =
        some (.plain (.column [⟨"name", none⟩]), [.mark ";"]) := rfl
    rw [left] at read
    cases read

end Catalog
end Clickstream
