import Clickstream.Proofs.Json.Injective
import Clickstream.Proofs.Report.Measures

/-! What a printed report tells of its result: all of it, but for which number a measure is that is not finite.
Such measures are printed as null, and only floats in the rows can make them. -/
namespace Clickstream
open Json

/-- The number as far as it is told in print: those that are not finite look the same. -/
def Binary64.printed (x : Binary64) : Binary64 := if x.isFinite then x else .nan

def Row.printed (r : Row) : Row := { r with measures := r.measures.map Binary64.printed }

def Table.printed (t : Table) : Table := { t with rows := t.rows.map Row.printed }

def Point.printed (p : Point) : Point := { p with y := p.y.printed }

def Series.printed (s : Series) : Series := { s with points := s.points.map Point.printed }

/-- The report as far as it is told in print. -/
def Report.printed : Report → Report
  | .table t => .table t.printed
  | .lineChart series => .lineChart (series.map Series.printed)

section Telling

private theorem map_alike {α β γ : Type} (f : α → β) (g : α → γ) {l l' : List α}
    (alike : ∀ a ∈ l, ∀ b ∈ l', (f a = f b ↔ g a = g b)) : l.map f = l'.map f ↔ l.map g = l'.map g := by
  induction l generalizing l' with
  | nil => cases l' <;> simp
  | cons a l ih =>
    cases l' with
    | nil => simp
    | cons b l' =>
      have first := alike a (by simp) b (by simp)
      have others : l.map f = l'.map f ↔ l.map g = l'.map g :=
        ih fun c there d there' => alike c (by simp [there]) d (by simp [there'])
      rw [List.map_cons, List.map_cons, List.map_cons, List.map_cons, List.cons.injEq, List.cons.injEq, first,
        others]

theorem Binary64.printed_of_finite {x : Binary64} (finite : x.isFinite = true) : x.printed = x := by
  rw [printed, if_pos finite]

theorem Binary64.shown_iff {x y : Binary64} :
    (Tree.number x).shown = (Tree.number y).shown ↔ x.printed = y.printed := by
  cases finite : x.isFinite <;> cases finite' : y.isFinite
  · simp [Tree.shown, printed, finite, finite']
  · have other : Binary64.nan ≠ y := by
      rintro rfl
      cases finite'
    simp [Tree.shown, printed, finite, finite', other]
  · have other : x ≠ Binary64.nan := by
      rintro rfl
      cases finite
    simp [Tree.shown, printed, finite, finite', other]
  · simp [Tree.shown, printed, finite, finite']

theorem Row.shown_iff {r r' : Row} : r.toTree.shown = r'.toTree.shown ↔ r.printed = r'.printed := by
  have texts : r.dimensions.map (Tree.shown ∘ Tree.text) = r'.dimensions.map (Tree.shown ∘ Tree.text) ↔
      r.dimensions.map id = r'.dimensions.map id :=
    map_alike _ id fun s _ s' _ => by simp [Tree.shown]
  have numbers : r.measures.map (Tree.shown ∘ Tree.number) = r'.measures.map (Tree.shown ∘ Tree.number) ↔
      r.measures.map Binary64.printed = r'.measures.map Binary64.printed :=
    map_alike _ _ fun x _ y _ => Binary64.shown_iff
  rw [List.map_id, List.map_id] at texts
  simp [toTree, printed, Tree.shown, Tree.shownMembers, Tree.shownItems_eq, texts, numbers]

theorem Series.shown_iff {s s' : Series} : s.toTree.shown = s'.toTree.shown ↔ s.printed = s'.printed := by
  let tree (p : Point) : Tree := .record [("x", .text p.x), ("y", .number p.y)]
  have points : s.points.map (Tree.shown ∘ tree) = s'.points.map (Tree.shown ∘ tree) ↔
      s.points.map Point.printed = s'.points.map Point.printed :=
    map_alike _ _ fun p _ p' _ => by
      have numbers := @Binary64.shown_iff p.y p'.y
      simp only [Tree.shown] at numbers
      simp [tree, Point.printed, Tree.shown, Tree.shownMembers, numbers]
  simp [toTree, printed, Tree.shown, Tree.shownMembers, Tree.shownItems_eq, points, tree]

/-- Entries are published without their expressions, so only those of one catalog are told apart in print. -/
theorem Catalog.standard_keys : ∀ e ∈ standard.dimensions ++ standard.measures,
    ∀ e' ∈ standard.dimensions ++ standard.measures, e.key = e'.key → e = e' := by
  decide

/-- The headers are entries of the standard catalog. -/
def Table.Catalogued (t : Table) : Prop :=
  ∀ e ∈ t.dimensionHeaders ++ t.measureHeaders, e ∈ Catalog.standard.dimensions ++ Catalog.standard.measures

private theorem headers_alike {es es' : List Entry}
    (known : ∀ e ∈ es, e ∈ Catalog.standard.dimensions ++ Catalog.standard.measures)
    (known' : ∀ e ∈ es', e ∈ Catalog.standard.dimensions ++ Catalog.standard.measures) :
    es.map (Tree.shown ∘ Entry.toTree) = es'.map (Tree.shown ∘ Entry.toTree) ↔ es = es' := by
  have alike : es.map (Tree.shown ∘ Entry.toTree) = es'.map (Tree.shown ∘ Entry.toTree) ↔
      es.map id = es'.map id := by
    refine map_alike _ id fun e there e' there' => ⟨fun same => ?_, congrArg _⟩
    have told : e.key = e'.key ∧ e.label = e'.label := by
      simpa [Entry.toTree, Tree.shown, Tree.shownMembers] using same
    exact Catalog.standard_keys e (known e there) e' (known' e' there') told.1
  rw [alike, List.map_id, List.map_id]

theorem Table.shown_iff {t t' : Table} (known : t.Catalogued) (known' : t'.Catalogued) :
    t.toTree.shown = t'.toTree.shown ↔ t.printed = t'.printed := by
  have rows : t.rows.map (Tree.shown ∘ Row.toTree) = t'.rows.map (Tree.shown ∘ Row.toTree) ↔
      t.rows.map Row.printed = t'.rows.map Row.printed :=
    map_alike _ _ fun r _ r' _ => Row.shown_iff
  obtain ⟨dimensions, measures⟩ := List.forall_mem_append.mp known
  obtain ⟨dimensions', measures'⟩ := List.forall_mem_append.mp known'
  have first := headers_alike dimensions dimensions'
  have second := headers_alike measures measures'
  simp [toTree, printed, Tree.shown, Tree.shownMembers, Tree.shownItems_eq, rows, first, second]

end Telling

section Nulls

private theorem nulls_numbers (xs : List Binary64) :
    (xs.map fun x => (Tree.number x).shown.nulls).sum = xs.countP (!·.isFinite) := by
  induction xs with
  | nil => rfl
  | cons x xs ih =>
    rw [List.map_cons, List.sum_cons, ih, List.countP_cons]
    cases finite : x.isFinite <;> simp [Tree.shown, Tree.nulls, finite, Nat.add_comm]

theorem Row.nulls_shown (r : Row) : r.toTree.shown.nulls = r.measures.countP (!·.isFinite) := by
  rw [← nulls_numbers]
  simp [toTree, Tree.shown, Tree.shownMembers, Tree.shownItems_eq, Tree.nulls, Tree.nullsMembers,
    Tree.nullsItems_eq, Function.comp_def]

theorem Series.nulls_shown (s : Series) :
    s.toTree.shown.nulls = (s.points.map Point.y).countP (!·.isFinite) := by
  rw [← nulls_numbers]
  simp [toTree, Tree.shown, Tree.shownMembers, Tree.shownItems_eq, Tree.nulls, Tree.nullsMembers,
    Tree.nullsItems_eq, Function.comp_def]

/-- A report is written with a null for each measure that is not finite, and with no other. -/
theorem Report.nulls_shown (r : Report) : r.toTree.shown.nulls = r.measures.countP (!·.isFinite) := by
  cases r with
  | table t =>
    have headers (es : List Entry) : (es.map fun e => e.toTree.shown.nulls).sum = 0 := by
      simp [Entry.toTree, Tree.shown, Tree.shownMembers, Tree.nulls, Tree.nullsMembers]
    have rows : (t.rows.map fun r => r.toTree.shown.nulls).sum =
        (t.rows.flatMap Row.measures).countP (!·.isFinite) := by
      simp only [Row.nulls_shown, List.countP_flatMap, Function.comp_def]
    simp [toTree, Table.toTree, measures, Tree.shown, Tree.shownMembers, Tree.shownItems_eq, Tree.nulls,
      Tree.nullsMembers, Tree.nullsItems_eq, Function.comp_def, headers, rows]
  | lineChart series =>
    simp only [toTree, measures, Tree.shown, Tree.shownItems_eq, Tree.nulls, Tree.nullsItems_eq, List.map_map,
      Function.comp_def, Series.nulls_shown, List.countP_flatMap]

end Nulls

theorem Row.printed_of_finite {r : Row} (finite : ∀ x ∈ r.measures, x.isFinite = true) : r.printed = r := by
  have same : r.measures.map Binary64.printed = r.measures.map id :=
    List.map_congr_left fun x there => Binary64.printed_of_finite (finite x there)
  rw [printed, same, List.map_id]

theorem Series.printed_of_finite {s : Series} (finite : ∀ p ∈ s.points, p.y.isFinite = true) : s.printed = s := by
  have same : s.points.map Point.printed = s.points.map id := by
    refine List.map_congr_left fun p there => ?_
    rw [Point.printed, Binary64.printed_of_finite (finite p there), id]
  rw [printed, same, List.map_id]

namespace Report
variable {shape : ReportShape} {c c' : Cursor} {r r' : Report}

/-- Finite measures are told in print. -/
theorem printed_of_finite (finite : ∀ x ∈ r.measures, x.isFinite = true) : r.printed = r := by
  cases r with
  | table t =>
    have same : t.rows.map Row.printed = t.rows.map id := by
      refine List.map_congr_left fun row there => Row.printed_of_finite fun x among => ?_
      exact finite x (List.mem_flatMap.mpr ⟨row, there, among⟩)
    rw [printed, Table.printed, same, List.map_id]
  | lineChart series =>
    have same : series.map Series.printed = series.map id := by
      refine List.map_congr_left fun s there => Series.printed_of_finite fun p among => ?_
      exact finite p.y (List.mem_flatMap.mpr ⟨s, there, List.mem_map_of_mem among⟩)
    rw [printed, same, List.map_id]

/-- The headers of a table are entries of the standard catalog. -/
def Catalogued : Report → Prop
  | .table t => t.Catalogued
  | .lineChart _ => True

/-- Reports of one shape have the same text exactly if they are the same as far as they are told in print. -/
theorem pretty_eq_iff (made : ofCursor shape c = .ok r) (made' : ofCursor shape c' = .ok r')
    (known : r.Catalogued) (known' : r'.Catalogued) :
    r.toTree.pretty = r'.toTree.pretty ↔ r.printed = r'.printed := by
  rw [Tree.pretty_eq_iff]
  cases shape with
  | table =>
    obtain ⟨t, -, rfl⟩ := map_eq_ok.mp made
    obtain ⟨t', -, rfl⟩ := map_eq_ok.mp made'
    rw [toTree, toTree, Table.shown_iff known known', printed, printed, table.injEq]
  | lineChart =>
    obtain ⟨series, -, rfl⟩ := map_eq_ok.mp made
    obtain ⟨series', -, rfl⟩ := map_eq_ok.mp made'
    have each : series.map (Tree.shown ∘ Series.toTree) = series'.map (Tree.shown ∘ Series.toTree) ↔
        series.map Series.printed = series'.map Series.printed :=
      map_alike _ _ fun s _ s' _ => Series.shown_iff
    simp only [toTree, printed, Tree.shown, Tree.shownItems_eq, List.map_map, Tree.list.injEq,
      lineChart.injEq, each]

/-- What a printed report tells. Two reports of one shape, tables of the standard catalog or charts, have the
same text exactly if they have the same headers, labels and texts, and where one has a finite measure the other
has it too. So the text tells the whole report if all its measures are finite. It is that of a document with a
null for each measure that is not finite and with no other null. There is none exactly if all floats in the
rows are finite. -/
theorem pretty_tells (made : ofCursor shape c = .ok r) (made' : ofCursor shape c' = .ok r')
    (known : r.Catalogued) (known' : r'.Catalogued) :
    (r.toTree.pretty = r'.toTree.pretty ↔ r.printed = r'.printed) ∧
      ((∀ x ∈ r.measures ++ r'.measures, x.isFinite = true) →
        (r.toTree.pretty = r'.toTree.pretty ↔ r = r')) ∧
      (r.toTree.pretty = r.toTree.shown.pretty ∧
        r.toTree.shown.nulls = r.measures.countP (!·.isFinite)) ∧
      (c.Words → (r.toTree.shown.nulls = 0 ↔ c.Finite)) := by
  have told := pretty_eq_iff made made' known known'
  refine ⟨told, fun finite => ?_, ⟨r.toTree.pretty_shown.symm, r.nulls_shown⟩, fun words => ?_⟩
  · obtain ⟨here, there⟩ := List.forall_mem_append.mp finite
    rw [told, printed_of_finite here, printed_of_finite there]
  · rw [r.nulls_shown, List.countP_eq_zero, ← finite_iff made words]
    simp

/-- A count that is no number and one that is infinite look the same in print. -/
theorem pretty_tells_not_finite :
    let row (x : Binary64) : Except StoreError (List Cell) := .ok [.text "2023-01-01", .float x]
    let made (x : Binary64) : Report :=
      .table ⟨countsByDate.dimensions, countsByDate.measures, [⟨["2023-01-01"], [x]⟩]⟩
    (∀ x, ofCursor .table ⟨countsByDate, [row x]⟩ = .ok (made x) ∧ (made x).Catalogued) ∧
      (made .nan).toTree.pretty = (made (.infinite false)).toTree.pretty ∧
      made .nan ≠ made (.infinite false) ∧ (made .nan).toTree.shown.nulls = 1 := by
  intro row made
  have makes (x : Binary64) : ofCursor .table ⟨countsByDate, [row x]⟩ = .ok (made x) := rfl
  have headers : ∀ e ∈ countsByDate.dimensions ++ countsByDate.measures,
      e ∈ Catalog.standard.dimensions ++ Catalog.standard.measures := by decide
  have known (x : Binary64) : (made x).Catalogued := headers
  obtain ⟨told, -, ⟨-, nulls⟩, -⟩ := pretty_tells (makes .nan) (makes (.infinite false)) (known _) (known _)
  exact ⟨fun x => ⟨makes x, known x⟩, told.mpr rfl, by simp [made], nulls⟩

end Report

end Clickstream
