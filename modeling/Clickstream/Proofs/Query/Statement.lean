import Clickstream.Query.Compiled

/-! Which queries compile, and the text of their statements, clause by clause. -/
namespace Clickstream
namespace Query

/-- The query has at least one dimension or measure. -/
def Asks (q : Query) : Prop := q.dimensions ≠ [] ∨ q.measures ≠ []

theorem asks_iff {q : Query} : q.Asks ↔ q.isEmpty = false := by
  unfold Asks isEmpty
  rw [Bool.and_eq_false_iff]
  simp

theorem not_asks_iff {q : Query} : ¬ q.Asks ↔ q.isEmpty = true := by
  rw [asks_iff, Bool.not_eq_false]

section Compile
variable {q : Query}

theorem compile_error {e : QueryError} : q.compile = .error e ↔ ¬q.Asks ∧ e = .empty := by
  rw [compile, not_asks_iff]
  cases q.isEmpty <;> simp [eq_comm]

theorem compile_ok {compiled : CompiledQuery} :
    q.compile = .ok compiled ↔ q.Asks ∧ compiled.query = q ∧ compiled.sql = q.statement := by
  obtain ⟨query, sql⟩ := compiled
  rw [compile, asks_iff]
  cases q.isEmpty <;> simp [eq_comm]

end Compile

def selectText (q : Query) : String :=
  if q.measures.isEmpty then "SELECT DISTINCT " else "SELECT "

def groupText (q : Query) : String :=
  if q.dimensions.isEmpty || q.measures.isEmpty then ""
  else " GROUP BY " ++ ", ".intercalate ((List.range' 1 q.dimensions.length).map toString)

def limitText (q : Query) : String :=
  match q.limit with
  | none => ""
  | some rows => " LIMIT " ++ toString rows

theorem statement_eq (q : Query) : q.statement = q.selectText ++
    ", ".intercalate ((q.dimensions ++ q.measures).map Entry.expression) ++ " FROM " ++ source ++
      q.groupText ++ q.limitText := rfl

theorem selectText_eq (q : Query) :
    q.selectText = "SELECT " ++ if q.measures = [] then "DISTINCT " else "" := by
  rw [selectText]
  cases q.measures <;> rfl

/-- The columns end before the blank that the relation is named after. -/
theorem statement_toList (q : Query) : q.statement.toList = q.selectText.toList ++
    ((", ".intercalate ((q.dimensions ++ q.measures).map Entry.expression)).toList ++
      ' ' :: ("FROM events".toList ++ (q.groupText.toList ++ q.limitText.toList))) := by
  have text : " FROM ".toList ++ source.toList = ' ' :: "FROM events".toList := rfl
  rw [statement_eq]
  simp only [String.toList_append, List.append_assoc]
  rw [← List.append_assoc " FROM ".toList, text]
  rfl

end Query
end Clickstream
