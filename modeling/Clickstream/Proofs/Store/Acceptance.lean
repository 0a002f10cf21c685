import Clickstream.Proofs.Database.Agreement
import Clickstream.Proofs.Number.Decimal
import Clickstream.Store.Memory

/-! Which events the stores refuse. The one in memory stops at the check that both make; the database
refuses the valid events too whose values have no room in a decimal. -/
namespace Clickstream

section Flaws
variable {e : Event} {flaw : Event.Flaw}

/-- An event is as finite as its value once it has passed the check. -/
theorem Event.finite_of_validate (valid : e.validate = .ok ()) : e.value.isFinite = true := by
  unfold validate at valid
  split at valid
  · cases valid
  · split at valid
    · cases valid
    · rename_i finite_
      simpa using finite_

/-- The amount of an event is missing if the check fails, or if there is no room for it. -/
theorem Event.amount_eq_error : e.amount = .error flaw ↔
    e.validate = .error flaw ∨
      e.validate = .ok () ∧ flaw = .notDecimal ∧ 2 ^ 96 ≤ |e.value.toRat| := by
  unfold amount
  cases valid : e.validate with
  | error other => simp [bind, Except.bind]
  | ok =>
    have range := Decimal.ofBinary64?_eq_none (x := e.value)
    simp only [finite_of_validate valid, Bool.true_eq_false, false_or] at range
    rw [← range]
    cases Decimal.ofBinary64? e.value with
    | none => simp [bind, Except.bind, throw, throwThe, MonadExceptOf.throw, eq_comm]
    | some d => simp [bind, Except.bind, pure, Except.pure]

theorem Database.eventRow_eq_error : Database.eventRow e = .error flaw ↔ e.amount = .error flaw := by
  unfold eventRow
  cases e.amount <;> simp [bind, Except.bind, pure, Except.pure]

/-- The store in memory takes every event that passes the check, and is left alone by the others. -/
theorem MemoryStore.insert_cases (e : Event) (m : MemoryStore) :
    (∃ flaw, e.validate = .error flaw ∧ MemoryStore.insert e m = (.error (.invalidEvent flaw), m)) ∨
      e.validate = .ok () ∧
        MemoryStore.insert e m = (.ok (m.events ++ [e]).length, { m with events := m.events ++ [e] }) := by
  unfold MemoryStore.insert
  cases valid : e.validate with
  | error flaw => exact .inl ⟨flaw, rfl, rfl⟩
  | ok => exact .inr ⟨rfl, rfl⟩

/-- The database refuses the events without an amount, before anything is sent. -/
theorem Database.Server.insert_cases (e : Event) (s : Server) :
    (∃ flaw, e.amount = .error flaw ∧ Server.insert e s = (.error (.invalidEvent flaw), s)) ∨
      (∃ d, e.amount = .ok d) ∧ ∀ flaw, (Server.insert e s).1 ≠ .error (.invalidEvent flaw) := by
  cases row : eventRow e with
  | error flaw => exact .inl ⟨flaw, eventRow_eq_error.mp row, insert_refused_iff.mpr row⟩
  | ok fields =>
    obtain ⟨valid, d, decimal, -⟩ := eventRow_ok.mp row
    exact .inr ⟨⟨d, amount_eq_ok.mpr ⟨valid, decimal⟩⟩, insert_valid ⟨valid, d, decimal⟩ s⟩

end Flaws

/-- Both stores refuse the events that fail the check, for its reason, and nothing is stored or sent then.
The store in memory takes all others; the database refuses those of them with a value of 2^96 or more
in size. So the stores refuse an event alike unless it is one of these. -/
theorem insert_refusals (e : Event) (m : MemoryStore) (s : Database.Server) :
    (∀ flaw, ((MemoryStore.insert e m).1 = .error (.invalidEvent flaw) ↔ e.validate = .error flaw) ∧
      (e.validate = .error flaw → (MemoryStore.insert e m).2 = m)) ∧
    (e.validate = .ok () → (MemoryStore.insert e m).2.events = m.events ++ [e]) ∧
    (∀ flaw, ((Database.Server.insert e s).1 = .error (.invalidEvent flaw) ↔ e.validate = .error flaw ∨
        e.validate = .ok () ∧ flaw = .notDecimal ∧ 2 ^ 96 ≤ |e.value.toRat|) ∧
      ((Database.Server.insert e s).1 = .error (.invalidEvent flaw) →
        (Database.Server.insert e s).2 = s)) ∧
    ((∀ flaw, (MemoryStore.insert e m).1 = .error (.invalidEvent flaw) ↔
        (Database.Server.insert e s).1 = .error (.invalidEvent flaw)) ↔
      (e.validate = .ok () → |e.value.toRat| < 2 ^ 96)) := by
  have memory (flaw : Event.Flaw) :
      (MemoryStore.insert e m).1 = .error (.invalidEvent flaw) ↔ e.validate = .error flaw := by
    obtain ⟨other, failed, outcome⟩ | ⟨valid, outcome⟩ := MemoryStore.insert_cases e m
    · simp [failed, outcome]
    · simp [valid, outcome]
  have database (flaw : Event.Flaw) :
      (Database.Server.insert e s).1 = .error (.invalidEvent flaw) ↔ e.amount = .error flaw := by
    obtain ⟨other, failed, outcome⟩ | ⟨⟨d, amount⟩, outcome⟩ := Database.Server.insert_cases e s
    · simp [failed, outcome]
    · simp [amount, outcome flaw]
  refine ⟨fun flaw => ⟨memory flaw, fun failed => ?_⟩, fun valid => ?_, fun flaw => ⟨?_, fun refused => ?_⟩, ?_⟩
  · obtain ⟨_, -, outcome⟩ | ⟨valid, -⟩ := MemoryStore.insert_cases e m
    · rw [outcome]
    · rw [valid] at failed
      cases failed
  · obtain ⟨_, failed, -⟩ | ⟨-, outcome⟩ := MemoryStore.insert_cases e m
    · rw [valid] at failed
      cases failed
    · rw [outcome]
  · rw [database, Event.amount_eq_error]
  · obtain ⟨_, -, outcome⟩ | ⟨-, outcome⟩ := Database.Server.insert_cases e s
    · rw [outcome]
    · exact absurd refused (outcome flaw)
  · simp only [memory, database, Event.amount_eq_error]
    constructor
    · intro alike valid
      by_contra large
      have := (alike .notDecimal).mpr (.inr ⟨valid, rfl, not_lt.mp large⟩)
      rw [valid] at this
      cases this
    · refine fun small flaw => ⟨.inl, ?_⟩
      rintro (failed | ⟨valid, -, large⟩)
      · exact failed
      · exact absurd large (not_le.mpr (small valid))

end Clickstream
