import Mathlib.Data.List.Basic
import Clickstream.Proofs.Number.Numeral
import Clickstream.Proofs.Query.Statement

/-! Compiled statements tell their queries. A comma between columns may stand inside a column as well, and
nothing marks where the measures begin; so it depends on the expressions of the catalog. -/
namespace Clickstream

namespace Catalog

/-- The expressions can be told apart where they stand in a statement: none begins with another, nor do
they and `DISTINCT` begin with one another, and no entry has two roles. -/
structure Legible (c : Catalog) : Prop where
  prefixFree : ∀ x ∈ c.dimensions ++ c.measures, ∀ y ∈ c.dimensions ++ c.measures,
    x.expression.toList <+: y.expression.toList → x = y
  notDistinct : ∀ x ∈ c.dimensions ++ c.measures, ¬"DISTINCT ".toList <+: x.expression.toList ∧
    ¬x.expression.toList <+: "DISTINCT ".toList
  oneRole : ∀ x ∈ c.dimensions, x ∉ c.measures

theorem standard_legible : standard.Legible where
  prefixFree := by decide +kernel
  notDistinct := by decide +kernel
  oneRole := by decide

end Catalog

namespace Query

/-- The query asks for something, and for entries of the catalog alone, each in its role. -/
structure Within (c : Catalog) (q : Query) : Prop where
  asks : q.dimensions ≠ [] ∨ q.measures ≠ []
  dimensions : ∀ x ∈ q.dimensions, x ∈ c.dimensions
  measures : ∀ x ∈ q.measures, x ∈ c.measures

/-- Columns after the first, each behind a comma, and what comes after the blank that ends them. -/
def columnsAfter (z : List Char) : List Entry → List Char
  | [] => ' ' :: z
  | x :: columns => ',' :: ' ' :: (x.expression.toList ++ columnsAfter z columns)

theorem columns_toList (x : Entry) (columns : List Entry) (z : List Char) :
    (", ".intercalate ((x :: columns).map Entry.expression)).toList ++ ' ' :: z =
      x.expression.toList ++ columnsAfter z columns := by
  induction columns generalizing x with
  | nil => simp [columnsAfter]
  | cons y columns ih =>
    rw [columnsAfter, ← ih y, List.map_cons, List.map_cons, String.intercalate_cons_cons]
    simp

section Columns
variable {c : Catalog} {z z' : List Char}

/-- An expression can be taken off the front of a text in one way. -/
theorem expression_split (legible : c.Legible) {x y : Entry} (mem : x ∈ c.dimensions ++ c.measures)
    (mem' : y ∈ c.dimensions ++ c.measures)
    (same : x.expression.toList ++ z = y.expression.toList ++ z') : x = y ∧ z = z' := by
  have front : x.expression.toList <+: y.expression.toList ++ z' := same ▸ List.prefix_append _ _
  obtain rfl : x = y := by
    rcases List.prefix_or_prefix_of_prefix front (List.prefix_append _ z') with shorter | longer
    · exact legible.prefixFree x mem y mem' shorter
    · exact (legible.prefixFree y mem' x mem longer).symm
  exact ⟨rfl, List.append_cancel_left same⟩

/-- After each column a comma or a blank tells whether there is another. -/
theorem columnsAfter_injective (legible : c.Legible) {xs ys : List Entry}
    (all : ∀ x ∈ xs, x ∈ c.dimensions ++ c.measures) (all' : ∀ y ∈ ys, y ∈ c.dimensions ++ c.measures)
    (same : columnsAfter z xs = columnsAfter z' ys) : xs = ys ∧ z = z' := by
  induction xs generalizing ys with
  | nil =>
    cases ys with
    | nil => exact ⟨rfl, (List.cons.inj same).2⟩
    | cons y ys => simp [columnsAfter] at same
  | cons x xs ih =>
    cases ys with
    | nil => simp [columnsAfter] at same
    | cons y ys =>
      obtain ⟨mem, others⟩ := List.forall_mem_cons.mp all
      obtain ⟨mem', others'⟩ := List.forall_mem_cons.mp all'
      simp only [columnsAfter, List.cons.injEq, true_and] at same
      obtain ⟨rfl, later⟩ := expression_split legible mem mem' same
      obtain ⟨rfl, rest⟩ := ih others others' later
      exact ⟨rfl, rest⟩

/-- Columns and what is behind them can be told from their text. -/
theorem columns_injective (legible : c.Legible) {xs ys : List Entry} (some_ : xs ≠ []) (some' : ys ≠ [])
    (all : ∀ x ∈ xs, x ∈ c.dimensions ++ c.measures) (all' : ∀ y ∈ ys, y ∈ c.dimensions ++ c.measures)
    (same : (", ".intercalate (xs.map Entry.expression)).toList ++ ' ' :: z =
      (", ".intercalate (ys.map Entry.expression)).toList ++ ' ' :: z') : xs = ys ∧ z = z' := by
  obtain ⟨x, xs, rfl⟩ := List.exists_cons_of_ne_nil some_
  obtain ⟨y, ys, rfl⟩ := List.exists_cons_of_ne_nil some'
  obtain ⟨mem, others⟩ := List.forall_mem_cons.mp all
  obtain ⟨mem', others'⟩ := List.forall_mem_cons.mp all'
  rw [columns_toList, columns_toList] at same
  obtain ⟨rfl, later⟩ := expression_split legible mem mem' same
  obtain ⟨rfl, rest⟩ := columnsAfter_injective legible others others' later
  exact ⟨rfl, rest⟩

/-- No columns begin as `DISTINCT` does. -/
theorem columns_not_distinct (legible : c.Legible) {xs : List Entry} (some_ : xs ≠ [])
    (all : ∀ x ∈ xs, x ∈ c.dimensions ++ c.measures) :
    (", ".intercalate (xs.map Entry.expression)).toList ++ ' ' :: z ≠ "DISTINCT ".toList ++ z' := by
  obtain ⟨x, xs, rfl⟩ := List.exists_cons_of_ne_nil some_
  intro same
  rw [columns_toList] at same
  have front : x.expression.toList <+: "DISTINCT ".toList ++ z' := same ▸ List.prefix_append _ _
  obtain ⟨longer, shorter⟩ := legible.notDistinct x (all x (by simp))
  exact (List.prefix_or_prefix_of_prefix front (List.prefix_append _ z')).elim shorter longer

/-- Where no entry has two roles, the roles of the columns can be told from the columns. -/
theorem roles_unique (legible : c.Legible) {q q' : Query} (within : q.Within c) (within' : q'.Within c)
    (same : q.dimensions ++ q.measures = q'.dimensions ++ q'.measures) :
    q.dimensions = q'.dimensions ∧ q.measures = q'.measures := by
  have chosen {q : Query} (within : q.Within c) :
      (q.dimensions ++ q.measures).filter (· ∈ c.dimensions) = q.dimensions := by
    have dimensions : q.dimensions.filter (· ∈ c.dimensions) = q.dimensions :=
      List.filter_eq_self.mpr fun x mem => by simpa using within.dimensions x mem
    have measures : q.measures.filter (· ∈ c.dimensions) = [] :=
      List.filter_eq_nil_iff.mpr fun x mem role =>
        legible.oneRole x (by simpa using role) (within.measures x mem)
    rw [List.filter_append, dimensions, measures, List.append_nil]
  have dimensions : q.dimensions = q'.dimensions := by rw [← chosen within, same, chosen within']
  rw [dimensions] at same
  exact ⟨dimensions, List.append_cancel_left same⟩

end Columns

/-- The limit can be told from its clause. -/
theorem limitText_injective {q q' : Query} (same : q.limitText = q'.limitText) : q.limit = q'.limit := by
  have worded (rows : Nat) : " LIMIT " ++ toString rows ≠ "" := by
    rw [ne_eq, String.append_eq_empty_iff]
    exact fun none_ => absurd none_.1 (by decide)
  rw [limitText, limitText] at same
  cases limit : q.limit <;> cases limit' : q'.limit <;> simp only [limit, limit'] at same
  case none.none => rfl
  case none.some rows' => exact absurd same.symm (worded rows')
  case some.none rows => exact absurd same (worded rows)
  case some.some rows rows' =>
    have numeral : toString rows = toString rows' := (String.append_right_inj _).mp same
    have read := whole?_toString (Nat.le_max_left rows rows')
    rw [numeral, whole?_toString (Nat.le_max_right rows rows')] at read
    exact read.symm

/-- A statement from its first column on. -/
def fromColumns (q : Query) : List Char :=
  (", ".intercalate ((q.dimensions ++ q.measures).map Entry.expression)).toList ++
    ' ' :: ("FROM events".toList ++ (q.groupText.toList ++ q.limitText.toList))

theorem statement_fromColumns (q : Query) : q.statement.toList =
    "SELECT ".toList ++ ((if q.measures = [] then "DISTINCT ".toList else []) ++ q.fromColumns) := by
  rw [statement_toList, selectText_eq, String.toList_append, List.append_assoc, fromColumns]
  cases q.measures <;> rfl

section Within
variable {c : Catalog} {q q' : Query}

theorem Within.columns_ne_nil (within : q.Within c) : q.dimensions ++ q.measures ≠ [] := fun none_ => by
  obtain ⟨dimensions, measures⟩ := List.append_eq_nil_iff.mp none_
  exact within.asks.elim (absurd dimensions) (absurd measures)

theorem Within.columns (within : q.Within c) :
    ∀ x ∈ q.dimensions ++ q.measures, x ∈ c.dimensions ++ c.measures := fun x mem => by
  rcases List.mem_append.mp mem with dimension | measure
  · exact List.mem_append_left _ (within.dimensions x dimension)
  · exact List.mem_append_right _ (within.measures x measure)

/-- Statements that are the same are so from their first column on. -/
theorem fromColumns_same (legible : c.Legible) (within : q.Within c) (within' : q'.Within c)
    (same : q.statement = q'.statement) : q.fromColumns = q'.fromColumns := by
  have texts := congrArg String.toList same
  rw [statement_fromColumns, statement_fromColumns, List.append_cancel_left_eq] at texts
  by_cases measured : q.measures = [] <;> by_cases measured' : q'.measures = []
  · rw [if_pos measured, if_pos measured'] at texts
    exact List.append_cancel_left texts
  · rw [if_pos measured, if_neg measured'] at texts
    exact absurd texts.symm (columns_not_distinct legible within'.columns_ne_nil within'.columns)
  · rw [if_neg measured, if_pos measured'] at texts
    exact absurd texts (columns_not_distinct legible within.columns_ne_nil within.columns)
  · rw [if_neg measured, if_neg measured'] at texts
    exact texts

/-- Queries of one legible catalog that have the same statement are the same. -/
theorem statement_injective (legible : c.Legible) (within : q.Within c) (within' : q'.Within c)
    (same : q.statement = q'.statement) : q = q' := by
  obtain ⟨columns, later⟩ := columns_injective legible within.columns_ne_nil within'.columns_ne_nil
    within.columns within'.columns (fromColumns_same legible within within' same)
  obtain ⟨dimensions, measures⟩ := roles_unique legible within within' columns
  have groups : q.groupText = q'.groupText := by
    rw [groupText, groupText, dimensions, measures]
  rw [List.append_cancel_left_eq, groups, List.append_cancel_left_eq] at later
  have limit := limitText_injective (String.toList_inj.mp later)
  obtain ⟨_, _, _⟩ := q
  obtain ⟨_, _, _⟩ := q'
  congr

end Within

/-- A compiled statement of the standard catalog tells its query. Two queries that ask for something of
it, in whatever order and with whatever repetitions and limits, compile, and to the same text exactly if
they have the same dimensions and the same measures in the same order, and the same limit. -/
theorem standard_statement_identifies {q q' : Query} (within : q.Within .standard)
    (within' : q'.Within .standard) :
    ∃ compiled compiled', q.compile = .ok compiled ∧ q'.compile = .ok compiled' ∧
      (compiled.sql = compiled'.sql ↔
        q.dimensions = q'.dimensions ∧ q.measures = q'.measures ∧ q.limit = q'.limit) := by
  refine ⟨⟨q, q.statement⟩, ⟨q', q'.statement⟩, compile_ok.mpr ⟨within.asks, rfl, rfl⟩,
    compile_ok.mpr ⟨within'.asks, rfl, rfl⟩, fun same => ?_, fun ⟨dimensions, measures, limit⟩ => ?_⟩
  · rw [statement_injective Catalog.standard_legible within within' same]
    exact ⟨rfl, rfl, rfl⟩
  · obtain ⟨_, _, _⟩ := q
    obtain ⟨_, _, _⟩ := q'
    congr

/-- Two columns with commas of their own, the other way round. -/
theorem standard_statement_identifies_order :
    let date : Entry := ⟨"date", "Date", "TO_CHAR(timestamp, 'YYYY-MM-DD')"⟩
    let month : Entry := ⟨"month", "Month", "TO_CHAR(timestamp, 'YYYY-MM')"⟩
    let q : Query := ⟨[date, month], [], some 7⟩
    let q' : Query := ⟨[month, date], [], some 7⟩
    (q.Within .standard ∧ q'.Within .standard) ∧
      ∃ compiled compiled', q.compile = .ok compiled ∧ q'.compile = .ok compiled' ∧
        compiled.sql ≠ compiled'.sql := by
  intro date month q q'
  have within : q.Within .standard := ⟨by decide, by decide, by decide⟩
  have within' : q'.Within .standard := ⟨by decide, by decide, by decide⟩
  obtain ⟨compiled, compiled', compiles, compiles', tells⟩ := standard_statement_identifies within within'
  exact ⟨⟨within, within'⟩, compiled, compiled', compiles, compiles',
    fun same => absurd (tells.mp same).1 (by decide)⟩

end Query
end Clickstream
