import Clickstream.Traffic.Generation
import Clickstream.Proofs.Time.Instant

/-! What is drawn has a property whatever the words of the source are. Nothing is said of draws that
fail, nor of how likely anything is. -/
namespace Clickstream
namespace Draw
variable {α β : Type} {d : Draw α} {next : α → Draw β} {P P' : α → Prop} {Q : β → Prop}

/-- From any place in any source, only values with this property are drawn. -/
def Yields (d : Draw α) (P : α → Prop) : Prop :=
  ∀ source used a used', d source used = .ok (a, used') → P a

namespace Yields

theorem pure {a : α} (holds : P a) : Yields (Pure.pure a) P := by
  rintro source used _ _ ⟨⟩
  exact holds

theorem bind (first : Yields d P) (later : ∀ a, P a → Yields (next a) Q) :
    Yields (d >>= next) Q := by
  intro source used b used' drawn
  simp only [Bind.bind, ReaderT.bind, StateT.bind] at drawn
  cases here : d source used with
  | error fault => simp [here, Except.bind] at drawn
  | ok outcome =>
    obtain ⟨a, used''⟩ := outcome
    simp only [here, Except.bind] at drawn
    exact later a (first _ _ _ _ here) _ _ _ _ drawn

theorem weaken (yields : Yields d P) (implies : ∀ a, P a → P' a) : Yields d P' :=
  fun _ _ a _ drawn => implies a (yields _ _ a _ drawn)

theorem both (yields : Yields d P) (yields' : Yields d P') : Yields d fun a => P a ∧ P' a :=
  fun _ _ a _ drawn => ⟨yields _ _ a _ drawn, yields' _ _ a _ drawn⟩

/-- Nothing at all is said of what is drawn. -/
theorem anything (d : Draw α) : Yields d fun _ => True := fun _ _ _ _ _ => trivial

theorem orFail {fault : GenerationFault} {a? : Option α} (holds : ∀ a, a? = some a → P a) :
    Yields (Draw.orFail fault a?) P := by
  cases a? with
  | none => rintro _ _ _ _ ⟨⟩
  | some a => exact pure (holds a rfl)

/-- Whatever is picked is one of the items. -/
theorem pick (items : Array α) : Yields (Draw.pick items) (· ∈ items) :=
  (anything _).bind fun _ _ => pure (Array.getElem_mem _)

theorem unit : Yields Draw.unit fun x => ∃ n < 1 <<< 53, x = .round false n (1 <<< 53) := by
  refine (anything _).bind fun w _ => pure ⟨w.toNat >>> 11, ?_, rfl⟩
  rw [Nat.shiftRight_eq_div_pow]
  have := w.toNat_lt
  omega

end Yields
end Draw

namespace Traffic
open Draw
variable {start stop t : Instant}

theorem later_yields (regular : t.Regular) (millis : Nat) :
    Yields (later t millis) fun u => u.Regular ∧ u.nanos = t.nanos + millis * 1000000 :=
  .orFail fun _ added => Instant.addMillis?_eq_some regular added

/-- An instant is drawn from a window that is not empty, even where it is shorter than a millisecond. -/
theorem timeBetween_yields (hstart : start.Regular) (hstop : stop.Regular)
    (window : start.nanos < stop.nanos) :
    Yields (timeBetween start stop) fun t =>
      t.Regular ∧ start.nanos ≤ t.nanos ∧ t.nanos < stop.nanos := by
  have millis : stop.millisSince start = (stop.nanos - start.nanos).tdiv 1000000 :=
    congrArg (Int.tdiv · 1000000) (Instant.nanosSince_eq hstop hstart)
  unfold timeBetween
  simp only [millis]
  split
  · exact .pure ⟨hstart, Int.le_refl _, window⟩
  · refine (Yields.anything _).bind fun ⟨k, inside⟩ _ => (later_yields hstart k).weaken fun t => ?_
    rintro ⟨regular, same⟩
    rw [millis, Int.tdiv_eq_ediv_of_nonneg (by omega)] at inside
    exact ⟨regular, by omega, by omega⟩

end Traffic
end Clickstream
