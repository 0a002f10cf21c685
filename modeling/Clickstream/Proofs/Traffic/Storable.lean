import Clickstream.Proofs.Database.BulkLoad
import Clickstream.Proofs.Number.Decimal
import Clickstream.Proofs.Traffic.Events

/-! Generated traffic can be stored: every event has a name, and a value with a decimal form. This needs
nothing of the source, and nothing of the instants that the plan begins and ends with. -/
namespace Clickstream
open Draw

/-- An event with a name, and a finite value below 2^96 in size, can be stored. -/
theorem Event.storable_of {e : Event} (named : Text.trim e.name ≠ "") (finite_ : e.value.isFinite = true)
    (room : |e.value.toRat| < 2 ^ 96) : e.Storable := by
  constructor
  · rw [validate, if_neg named, finite_]
    rfl
  · cases decimal : Decimal.ofBinary64? e.value with
    | some d => exact ⟨d, rfl⟩
    | none =>
      rcases Decimal.ofBinary64?_eq_none.mp decimal with infinite | large
      · rw [finite_] at infinite
        cases infinite
      · exact absurd room (not_lt.mpr large)

namespace Traffic

private theorem named {name : String}
    (among : name ∈ ["page_view", "cta_click", "form_submission", "purchase"]) :
    Text.trim name ≠ "" := by
  have each : ∀ name ∈ ["page_view", "cta_click", "form_submission", "purchase"],
      Text.trim name ≠ "" := by decide +kernel
  exact each name among

private theorem zero_room : |(Binary64.zero false).toRat| < 2 ^ 96 := by
  obtain ⟨h, zero⟩ : ∃ h, Binary64.zero false = .finite false 0 (-1074) h := ⟨by decide, rfl⟩
  rw [zero, Binary64.abs_toRat, Nat.cast_zero, zero_mul]
  norm_num

theorem Priced.room {x : Binary64} (priced : Priced x) : x.isFinite = true ∧ |x.toRat| < 2 ^ 96 := by
  obtain ⟨finite_, below⟩ := Binary64.abs_toRat_lt priced.from_ priced.until_
  exact ⟨finite_, below.trans (by norm_num)⟩

theorem Concludes.storable {e : Event} (concludes : Concludes e) : e.Storable := by
  cases concludes with
  | purchase name on value =>
    obtain ⟨finite_, room⟩ := value.room
    exact Event.storable_of (named (by simp [name])) finite_ room
  | submission name on value =>
    exact Event.storable_of (named (by simp [name])) (value ▸ rfl) (value ▸ zero_room)
  | other name among on value =>
    refine Event.storable_of (named ?_) (value ▸ rfl) (value ▸ zero_room)
    rcases name with name | name <;> simp [name]

end Traffic

theorem Visit.Opens.storable {v : Visit} {e : Event} (opens : v.Opens e) : e.Storable :=
  Event.storable_of (Traffic.named (by simp [opens.name])) (opens.value ▸ rfl)
    (opens.value ▸ Traffic.zero_room)

/-- A plan gives as many events as it says, and each of them can be stored. -/
theorem Plan.events_storable (p : Plan) :
    Yields p.events fun events => events.length = p.eventCount ∧ ∀ e ∈ events, e.Storable := by
  refine p.visits_size.bind fun visits size => ?_
  refine (Traffic.landings_open #[] visits.toList).bind fun landings => ?_
  rintro ⟨views, landed, opens⟩
  refine (Traffic.actions_grow (Traffic.action_concludes visits) landings _).bind fun all => ?_
  rintro ⟨others, grown, length, concludes⟩
  rw [landed, List.nil_append] at grown
  rw [grown]
  have viewed : views.length = p.sessionCount := by rw [← opens.length_eq, Array.length_toList, size]
  have sessions : p.sessionCount ≤ p.eventCount := Nat.le_max_right ..
  refine .pure ⟨?_, fun e there => ?_⟩
  · rw [List.length_append, viewed, length]
    omega
  · rcases List.mem_append.mp there with view | other
    · obtain ⟨i, hi, rfl⟩ := List.getElem_of_mem view
      exact (opens.get (opens.length_eq ▸ hi) hi).storable
    · exact (concludes e other).storable

/-- What a source gives for a plan can be stored, all of it. -/
theorem Plan.generate_storable {p : Plan} {source : RandomSource} {events : List Event}
    (generated : p.generate source = .ok events) :
    events.length = p.eventCount ∧ ∀ e ∈ events, e.Storable := by
  obtain ⟨⟨_, used⟩, drawn, rfl⟩ := map_eq_ok.mp generated
  exact p.events_storable source 0 _ used drawn

end Clickstream
