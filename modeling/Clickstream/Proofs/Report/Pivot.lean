import Mathlib.Algebra.GroupWithZero.Nat
import Mathlib.Data.List.Induction
import Mathlib.Data.List.Nodup
import Mathlib.Logic.Function.Basic
import Clickstream.Proofs.Report.Chart
import Clickstream.Proofs.Report.Decoding

/-! Line charts of two dimensions and one measure: what becomes of the rows when each is put into the
series of its second dimension, one after another. -/
namespace Clickstream

/-- The row that says that the series of this label has this point. -/
def Row.ofPoint (mark : String × Point) : Row := ⟨[mark.2.x, mark.1], [mark.2.y]⟩

/-- A row that decodes under two dimensions and one measure says that some series has some point. -/
theorem Row.exists_ofPoint {cells : List Cell} {row : Row} (decoded : decode cells 2 1 = .ok row) :
    ∃ mark, row = ofPoint mark := by
  obtain ⟨texts, numbers⟩ := decode_lengths decoded
  obtain ⟨dimensions, measures⟩ := row
  obtain ⟨x, label, rfl⟩ := List.length_eq_two.mp texts
  obtain ⟨y, rfl⟩ := List.length_eq_one_iff.mp numbers
  exact ⟨(label, ⟨x, y⟩), rfl⟩

namespace Series

/-- Labelled points put into series, one after another. -/
def gather (series : List Series) (marks : List (String × Point)) : List Series :=
  marks.foldl (fun series mark => addPoint mark.1 mark.2 series) series

/-- The points under a label, as they come. -/
def pointsOf (marks : List (String × Point)) (label : String) : List Point :=
  (marks.filter (·.1 = label)).map Prod.snd

/-- The labels in the order they first appear, each with its points. -/
def pivot (marks : List (String × Point)) : List Series :=
  (marks.map Prod.fst).eraseDups.map fun label => ⟨label, pointsOf marks label⟩

/-- What the series say, point by point. -/
def marks (series : List Series) : List (String × Point) :=
  series.flatMap fun s => s.points.map (s.label, ·)

theorem perSecondDimension_eq (marks : List (String × Point)) :
    perSecondDimension (marks.map Row.ofPoint) = gather [] marks := by
  unfold perSecondDimension gather
  rw [List.foldl_map]
  rfl

section Labels
variable (labels : List String) (label : String)

private theorem eraseDups_concat :
    (labels ++ [label]).eraseDups = labels.eraseDups ++ if label ∈ labels then [] else [label] := by
  rw [List.eraseDups_append]
  by_cases seen : label ∈ labels <;> simp [List.removeAll, seen, List.eraseDups_cons]

private theorem nodup_eraseDups : labels.eraseDups.Nodup := by
  induction labels using List.reverseRecOn with
  | nil => exact List.nodup_nil
  | append_singleton labels label ih =>
    rw [eraseDups_concat]
    split
    · rwa [List.append_nil]
    · rename_i new
      rw [List.nodup_append_comm]
      exact List.nodup_cons.mpr ⟨fun seen => new (List.mem_eraseDups.mp seen), ih⟩

end Labels

section Points
variable (marks : List (String × Point)) (label : String) (p : Point)

private theorem pointsOf_concat (other : String) :
    pointsOf (marks ++ [(label, p)]) other =
      pointsOf marks other ++ if label = other then [p] else [] := by
  unfold pointsOf
  rw [List.filter_append, List.map_append]
  by_cases same : label = other <;> simp [same]

private theorem pointsOf_ne_nil {label : String} (seen : label ∈ marks.map Prod.fst) :
    pointsOf marks label ≠ [] := by
  obtain ⟨mark, there, rfl⟩ := List.mem_map.mp seen
  have chosen : mark ∈ marks.filter (·.1 = mark.1) := List.mem_filter.mpr ⟨there, by simp⟩
  exact List.ne_nil_of_mem (List.mem_map_of_mem chosen)

private theorem pointsOf_unseen {label : String} (unseen : label ∉ marks.map Prod.fst) :
    pointsOf marks label = [] := by
  unfold pointsOf
  rw [List.map_eq_nil_iff, List.filter_eq_nil_iff]
  intro mark there same
  exact unseen (List.mem_map.mpr ⟨mark, there, by simpa using same⟩)

end Points

private theorem addPoint_map (points : String → List Point) (label : String) (p : Point)
    {labels : List String} (distinct : labels.Nodup) :
    addPoint label p (labels.map fun s => ⟨s, points s⟩) =
      (labels.map fun s => ⟨s, points s ++ if label = s then [p] else []⟩) ++
        if label ∈ labels then [] else [⟨label, [p]⟩] := by
  induction labels with
  | nil => rfl
  | cons first labels ih =>
    obtain ⟨apart, distinct⟩ := List.nodup_cons.mp distinct
    rw [List.map_cons, addPoint]
    by_cases same : first = label
    · subst same
      have untouched : ∀ s ∈ labels, (⟨s, points s⟩ : Series) =
          ⟨s, points s ++ if first = s then [p] else []⟩ := by
        rintro s there
        rw [if_neg (by rintro rfl; exact apart there), List.append_nil]
      simp [List.map_congr_left untouched]
    · rw [if_neg same, ih distinct, List.map_cons]
      simp [Ne.symm same]

/-- One more point makes one more point of the pivot. -/
theorem addPoint_pivot (marks : List (String × Point)) (label : String) (p : Point) :
    addPoint label p (pivot marks) = pivot (marks ++ [(label, p)]) := by
  unfold pivot
  rw [addPoint_map (pointsOf marks) label p (nodup_eraseDups _), List.map_append, List.map_singleton,
    eraseDups_concat, List.map_append]
  simp only [List.mem_eraseDups, pointsOf_concat]
  congr 1
  split
  · rfl
  · rename_i unseen
    simp [pointsOf_unseen marks unseen]

/-- Points that are gathered one after another make the pivot of them all. -/
theorem gather_pivot (done marks : List (String × Point)) :
    gather (pivot done) marks = pivot (done ++ marks) := by
  induction marks generalizing done with
  | nil => rw [List.append_nil]; rfl
  | cons mark marks ih =>
    calc gather (pivot done) (mark :: marks)
        = gather (addPoint mark.1 mark.2 (pivot done)) marks := rfl
      _ = gather (pivot (done ++ [mark])) marks := by rw [addPoint_pivot]
      _ = pivot (done ++ mark :: marks) := by rw [ih, List.append_assoc, List.singleton_append]

/-- A point goes into exactly one series, and none gets lost. -/
theorem addPoint_marks (label : String) (p : Point) (series : List Series) :
    (marks (addPoint label p series)).Perm ((label, p) :: marks series) := by
  induction series with
  | nil => exact .refl _
  | cons s series ih =>
    rw [addPoint]
    split
    · rename_i same
      subst same
      simp only [marks, List.flatMap_cons, List.map_append, List.map_singleton, List.append_assoc]
      exact List.perm_middle
    · simp only [marks, List.flatMap_cons] at ih ⊢
      exact (ih.append_left _).trans List.perm_middle

theorem gather_marks (series : List Series) (new : List (String × Point)) :
    (marks (gather series new)).Perm (marks series ++ new) := by
  induction new generalizing series with
  | nil => rw [List.append_nil]; exact .refl _
  | cons mark new ih =>
    refine (ih (addPoint mark.1 mark.2 series)).trans ?_
    exact ((addPoint_marks mark.1 mark.2 series).append_right new).trans List.perm_middle.symm

theorem length_marks (series : List Series) :
    (marks series).length = (series.map fun s => s.points.length).sum := by
  simp [marks, List.length_flatMap]

/-- Series that grow in one pass, with the place that each label's series has among them. -/
structure Placed where
  places : String → Option Nat
  series : List Series

namespace Placed

def empty : Placed := ⟨fun _ => none, []⟩

/-- Puts a point where its label has its place. A label without a place gets the next one, and a series
is started for a label exactly if its place is the next one. -/
def add (t : Placed) (mark : String × Point) : Placed :=
  let next := t.series.length
  let place := (t.places mark.1).getD next
  let series := if place = next then t.series ++ [⟨mark.1, []⟩] else t.series
  ⟨Function.update t.places mark.1 (some place),
    series.modify place fun s => { s with points := s.points ++ [mark.2] }⟩

/-- A label has a place exactly if the series there has the label. So no place lies outside, and no two
series have one label. -/
def Kept (t : Placed) : Prop :=
  ∀ label i, t.places label = some i ↔ (t.series.map Series.label)[i]? = some label

theorem empty_kept : empty.Kept := by simp [Kept, empty]

private theorem addPoint_place {series : List Series} {label : String} {i : Nat} (p : Point)
    (only : ∀ j, (series.map Series.label)[j]? = some label ↔ j = i) :
    addPoint label p series = series.modify i fun s => { s with points := s.points ++ [p] } := by
  induction series generalizing i with
  | nil => simpa using (only i).mpr rfl
  | cons s series ih =>
    rw [addPoint]
    by_cases same : s.label = label
    · obtain rfl : 0 = i := (only 0).mp (by simp [same])
      rw [if_pos same]
      rfl
    · cases i with
      | zero => exact absurd (by simpa using (only 0).mpr rfl) same
      | succ i =>
        rw [if_neg same, ih fun j => ?_]
        · rfl
        · simpa using only (j + 1)

private theorem addPoint_new {series : List Series} {label : String} (p : Point)
    (new : label ∉ series.map Series.label) : addPoint label p series = series ++ [⟨label, [p]⟩] := by
  induction series with
  | nil => rfl
  | cons s series ih =>
    rw [List.map_cons, List.mem_cons, not_or] at new
    rw [addPoint, if_neg (Ne.symm new.1), ih new.2]
    rfl

/-- A label that has no place is the label of no series. -/
theorem Kept.new {t : Placed} (kept : t.Kept) {label : String} (none_ : t.places label = none) :
    label ∉ t.series.map Series.label := by
  intro there
  obtain ⟨i, here⟩ := List.mem_iff_getElem?.mp there
  rw [(kept label i).mpr here] at none_
  cases none_

/-- A place is the place of a series. -/
theorem Kept.inside {t : Placed} (kept : t.Kept) {label : String} {i : Nat}
    (place : t.places label = some i) : i < t.series.length := by
  obtain ⟨inside, -⟩ := List.getElem?_eq_some_iff.mp ((kept label i).mp place)
  rwa [List.length_map] at inside

private theorem modify_concat (series : List Series) (s : Series) (f : Series → Series) :
    (series ++ [s]).modify series.length f = series ++ [f s] := by
  induction series with
  | nil => rfl
  | cons first series ih => exact congrArg (first :: ·) ih

private theorem modify_labels (series : List Series) (i : Nat) (p : Point) :
    (series.modify i fun s => { s with points := s.points ++ [p] }).map Series.label =
      series.map Series.label := by
  induction series generalizing i with
  | nil => cases i <;> rfl
  | cons first series ih =>
    cases i with
    | zero => rfl
    | succ i => exact congrArg (first.label :: ·) (ih i)

private theorem getElem?_concat_new {labels : List String} {label : String} (new : label ∉ labels)
    {i : Nat} : (labels ++ [label])[i]? = some label ↔ i = labels.length := by
  rcases Nat.lt_trichotomy i labels.length with inside | rfl | beyond
  · rw [List.getElem?_append_left inside]
    exact iff_of_false (fun there => new (List.mem_of_getElem? there)) (Nat.ne_of_lt inside)
  · simp
  · rw [List.getElem?_eq_none (by rwa [List.length_append])]
    simpa using Nat.ne_of_gt beyond

private theorem getElem?_concat_other {labels : List String} {label new : String} (other : label ≠ new)
    {i : Nat} : (labels ++ [new])[i]? = some label ↔ labels[i]? = some label := by
  rcases Nat.lt_or_ge i labels.length with inside | beyond
  · rw [List.getElem?_append_left inside]
  · rw [List.getElem?_append_right beyond, List.getElem?_eq_none beyond, List.getElem?_singleton]
    split <;> simp [Ne.symm other]

/-- With the places at hand the point goes where it goes without them. -/
theorem Kept.add_series {t : Placed} (kept : t.Kept) (mark : String × Point) :
    (t.add mark).series = addPoint mark.1 mark.2 t.series := by
  obtain ⟨label, p⟩ := mark
  cases place : t.places label with
  | none =>
    simp only [add, place, Option.getD_none, ↓reduceIte]
    rw [addPoint_new p (kept.new place), modify_concat]
    rfl
  | some i =>
    have inside := kept.inside place
    simp only [add, place, Option.getD_some, if_neg (Nat.ne_of_lt inside)]
    rw [addPoint_place p]
    intro j
    rw [← kept, place]
    simp [eq_comm]

private theorem add_labels (t : Placed) (mark : String × Point) :
    (t.add mark).series.map Series.label = t.series.map Series.label ++
      if (t.places mark.1).getD t.series.length = t.series.length then [mark.1] else [] := by
  simp only [add, modify_labels]
  split <;> simp

/-- One point more leaves the places those of the series. -/
theorem Kept.add {t : Placed} (kept : t.Kept) (mark : String × Point) : (t.add mark).Kept := by
  intro label i
  rw [add_labels]
  cases place : t.places mark.1 with
  | none =>
    have new := kept.new place
    simp only [Placed.add, place, Option.getD_none, ↓reduceIte]
    by_cases same : label = mark.1
    · subst same
      rw [Function.update_self, getElem?_concat_new new, List.length_map, Option.some.injEq, eq_comm]
    · rw [Function.update_of_ne same, kept, getElem?_concat_other same]
  | some k =>
    have inside := kept.inside place
    simp only [Placed.add, place, Option.getD_some, if_neg (Nat.ne_of_lt inside), List.append_nil]
    by_cases same : label = mark.1
    · subst same
      rw [Function.update_self, ← kept, place]
    · rw [Function.update_of_ne same, kept]

/-- Points that are put in their places one after another are gathered as without the places. -/
theorem Kept.gather {t : Placed} (kept : t.Kept) (marks : List (String × Point)) :
    (marks.foldl Placed.add t).series = Series.gather t.series marks := by
  induction marks generalizing t with
  | nil => rfl
  | cons mark marks ih =>
    calc ((mark :: marks).foldl Placed.add t).series
        = (marks.foldl Placed.add (t.add mark)).series := rfl
      _ = Series.gather (t.add mark).series marks := ih (kept.add mark)
      _ = Series.gather t.series (mark :: marks) := by rw [kept.add_series]; rfl

end Placed
end Series

namespace Cursor

/-- Every row of two dimensions and one measure says of some label that it has some point. -/
theorem marks_of_reads {q : Query} (two : q.dimensions.length = 2) (one : q.measures.length = 1)
    {items : RowStream} {rows : List Row} (decoded : List.Forall₂ (Reads q) items rows) :
    ∃ marks : List (String × Point), rows = marks.map Row.ofPoint := by
  induction decoded with
  | nil => exact ⟨[], rfl⟩
  | cons reads _ ih =>
    obtain ⟨read⟩ := reads
    rw [two, one] at read
    obtain ⟨mark, rfl⟩ := Row.exists_ofPoint read
    obtain ⟨marks, rfl⟩ := ih
    exact ⟨mark :: marks, rfl⟩

/-- The chart of two dimensions and one measure is the pivot of its rows. Each row says of a label that
it has a point, and nothing that a row could lack is made up. There is one series for each label, in the
order they first appear. Its points are those of the label as they come, one at least. No point is lost,
repeated or put elsewhere. One pass that keeps the place of each label makes the same series. -/
theorem lineChart_pivots {c : Cursor} {rows : List Row} (two : c.query.dimensions.length = 2)
    (one : c.query.measures.length = 1) (decoded : List.Forall₂ (Reads c.query) c.rows rows) :
    ∃ (marks : List (String × Point)) (series : List Series),
      rows = marks.map Row.ofPoint ∧ c.lineChart = .ok series ∧
      series.map Series.label = (marks.map Prod.fst).eraseDups ∧
      (series.map Series.label).Nodup ∧
      (∀ s ∈ series, s.points = (marks.filter (·.1 = s.label)).map Prod.snd ∧ s.points ≠ []) ∧
      (series.flatMap fun s => s.points.map (s.label, ·)).Perm marks ∧
      (series.map fun s => s.points.length).sum = rows.length ∧
      series = (marks.foldl Series.Placed.add .empty).series := by
  obtain ⟨marks, rfl⟩ := marks_of_reads two one decoded
  have shaped : ChartShape.ofQuery c.query = .ok .seriesPerSecondDimension :=
    ChartShape.ofQuery_ok.mpr (.inr ⟨rfl, two, one⟩)
  have drawn : c.lineChart = .ok (Series.gather [] marks) := by
    unfold lineChart
    rw [shaped, rest_ok.mpr decoded, ← Series.perSecondDimension_eq]
    rfl
  have pivoted : Series.gather [] marks = Series.pivot marks := Series.gather_pivot [] marks
  have labels : (Series.pivot marks).map Series.label = (marks.map Prod.fst).eraseDups := by
    unfold Series.pivot
    rw [List.map_map]
    exact List.map_id _
  have whole : (Series.marks (Series.gather [] marks)).Perm marks := Series.gather_marks [] marks
  refine ⟨marks, Series.gather [] marks, rfl, drawn, ?_, ?_, fun s there => ?_, whole, ?_, ?_⟩
  · rw [pivoted, labels]
  · rw [pivoted, labels]
    exact Series.nodup_eraseDups _
  · rw [pivoted] at there
    obtain ⟨label, seen, rfl⟩ := List.mem_map.mp there
    exact ⟨rfl, Series.pointsOf_ne_nil marks (List.mem_eraseDups.mp seen)⟩
  · rw [← Series.length_marks, whole.length_eq, List.length_map]
  · exact (Series.Placed.empty_kept.gather marks).symm

/-- Two dates, two names, and one row for three of the four pairs. -/
theorem lineChart_pivots_names :
    let c : Cursor := ⟨Report.countsByDateAndName, [
      .ok [.text "2023-01-01", .text "page_view", .int 5],
      .ok [.text "2023-01-01", .text "", .int 2],
      .ok [.text "2023-01-02", .text "page_view", .int 3]]⟩
    (c.query.dimensions.length = 2 ∧ c.query.measures.length = 1 ∧
        ∃ rows, List.Forall₂ (Reads c.query) c.rows rows) ∧
      ∃ series, c.lineChart = .ok series ∧ series.map Series.label = ["page_view", ""] ∧
        (series.map fun s => s.points.length).sum = 3 := by
  intro c
  let x (i : Int) : Binary64 := .ofInt i
  let rows : List Row := [⟨["2023-01-01", "page_view"], [x 5]⟩, ⟨["2023-01-01", ""], [x 2]⟩,
    ⟨["2023-01-02", "page_view"], [x 3]⟩]
  have decoded : List.Forall₂ (Reads c.query) c.rows rows :=
    .cons (.row rfl) (.cons (.row rfl) (.cons (.row rfl) .nil))
  obtain ⟨marks, series, same, drawn, labels, -, -, -, count, -⟩ :=
    lineChart_pivots (c := c) rfl rfl decoded
  refine ⟨⟨rfl, rfl, rows, decoded⟩, series, drawn, ?_, count⟩
  have named : marks.map Prod.fst = ["page_view", "", "page_view"] := by
    have : rows.map (fun r => r.dimensions[1]?.getD "") = marks.map Prod.fst := by
      rw [same, List.map_map]
      rfl
    rw [← this]
    rfl
  rw [labels, named]
  rfl

end Cursor
end Clickstream
