import Clickstream.Proofs.Text.Blank
import Clickstream.Sql.Keyword

/-! Where the word `FROM` stands among the keywords. -/
namespace Clickstream.Sql.Keyword

private theorem placed : ("FROM" ∈ notColumnAlias ∧ "FROM" ∉ timeUnits) ∧
    ("GROUP" ∈ notTableAlias ∧ "LIMIT" ∈ notTableAlias) ∧ "FROM" ∈ Text.splitAt ' '
      "FOREIGN FORMAT FORMATTED FORWARD FRAME_ROW FREE FREEZE FROM FSCK FULL FULLTEXT FUNCTION" := by
  simp only [notColumnAlias, timeUnits, notTableAlias, Text.mem_splitAt, String.toList_append]
  repeat rw [String.toList_ofList]
  decide +kernel

theorem from_mem_all : "FROM" ∈ all := by
  refine List.mem_flatMap.mpr ⟨_, ?_, placed.2.2⟩
  simp only [List.mem_cons, String.reduceEq, true_or, or_true, false_or]

theorem from_mem_notColumnAlias : "FROM" ∈ notColumnAlias := placed.1.1

theorem from_not_mem_timeUnits : "FROM" ∉ timeUnits := placed.1.2

theorem group_mem_notTableAlias : "GROUP" ∈ notTableAlias := placed.2.1.1

theorem limit_mem_notTableAlias : "LIMIT" ∈ notTableAlias := placed.2.1.2

end Clickstream.Sql.Keyword
