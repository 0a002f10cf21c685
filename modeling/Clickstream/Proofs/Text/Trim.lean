import Mathlib.Data.List.DropRight
import Clickstream.Text.Blank

/-! A text without the blanks around it: they are all that is cut, however many there are. -/
namespace Clickstream.Text

section Trimmed
variable {before cs after : List Char}

theorem trimStart_append (blanks : ∀ c ∈ before, isBlank c = true) :
    trimStart (before ++ cs) = trimStart cs :=
  List.dropWhile_append_of_pos blanks

theorem trimEnd_append (blanks : ∀ c ∈ after, isBlank c = true) :
    trimEnd (cs ++ after) = trimEnd cs := by
  rw [trimEnd, List.reverse_append,
    List.dropWhile_append_of_pos fun c there => blanks c (List.mem_reverse.mp there)]
  rfl

/-- Blanks around a text make no difference. -/
theorem trim_append (blanks : ∀ c ∈ before, isBlank c = true) (blanks' : ∀ c ∈ after, isBlank c = true) :
    trim (String.ofList (before ++ cs ++ after)) = trim (String.ofList cs) := by
  simp only [trim, String.toList_ofList, List.append_assoc, trimStart_append blanks]
  refine congrArg String.ofList ?_
  by_cases blank : ∀ c ∈ cs, isBlank c = true
  · have none_ : trimStart (cs ++ after) = [] ∧ trimStart cs = [] := by
      simp only [trimStart, List.dropWhile_eq_nil_iff, List.forall_mem_append]
      exact ⟨⟨blank, blanks'⟩, blank⟩
    rw [none_.1, none_.2]
  · have kept : trimStart (cs ++ after) = trimStart cs ++ after := by
      unfold trimStart
      rw [List.dropWhile_append, if_neg]
      simpa [List.isEmpty_iff, List.dropWhile_eq_nil_iff] using blank
    rw [kept, trimEnd_append blanks']

/-- Only blanks are cut. -/
theorem trim_spec (s : String) : ∃ before after, (∀ c ∈ before, isBlank c = true) ∧
    (∀ c ∈ after, isBlank c = true) ∧ s.toList = before ++ (trim s).toList ++ after := by
  refine ⟨s.toList.takeWhile isBlank, (trimStart s.toList).rtakeWhile isBlank,
    fun c there => List.mem_takeWhile_imp there, fun c there => List.mem_rtakeWhile_imp there, ?_⟩
  have cut : trimEnd (trimStart s.toList) = (trimStart s.toList).rdropWhile isBlank := rfl
  rw [trim, String.toList_ofList, cut, List.append_assoc, List.rdropWhile_append_rtakeWhile]
  exact List.takeWhile_append_dropWhile.symm

theorem trim_trim (s : String) : trim (trim s) = trim s := by
  obtain ⟨before, after, blanks, blanks', same⟩ := trim_spec s
  have around : trim (String.ofList (before ++ (trim s).toList ++ after)) = _ :=
    trim_append blanks blanks'
  rw [← same, String.ofList_toList, String.ofList_toList] at around
  exact around.symm

/-- A text with no blank in it is left as it is. -/
theorem trim_solid {s : String} (solid : ∀ c ∈ s.toList, isBlank c = false) : trim s = s := by
  obtain ⟨before, after, blanks, blanks', same⟩ := trim_spec s
  have none_ {part : List Char} (blank : ∀ c ∈ part, isBlank c = true) (within : part ⊆ s.toList) :
      part = [] := by
    refine List.eq_nil_iff_forall_not_mem.mpr fun c there => ?_
    have := blank c there
    rw [solid c (within there)] at this
    cases this
  rw [none_ blanks (by simp [same]), none_ blanks' (by simp [same])] at same
  exact (String.toList_inj.mp (by simpa using same)).symm

end Trimmed
end Clickstream.Text
