import Clickstream.Proofs.Number.Amount
import Clickstream.Proofs.Store.Acceptance

/-! The newest events as they are listed: what the amounts that were stored with them come back as. -/
namespace Clickstream.Database

/-- A row of a reply shows an event under this identifier, its value as this decimal. -/
structure Shows (columns : List Column) (row : List WireCell) (id : Int) (name : String)
    (amount : Decimal) : Prop where
  id : readNamed ["int8"] (readInt? 8) columns row "id" = .ok id
  name : readNamed (textTypes ++ ["unknown"]) readText? columns row "name" = .ok name
  value : readNamed ["numeric"] readNumeric? columns row "value" = .ok amount

theorem summary_ok {columns : List Column} {row : List WireCell} {listed : Event.Summary} :
    Server.summary columns row = .ok listed ↔
      ∃ d, Shows columns row listed.id listed.name d ∧ listed.value = d.toBinary64 := by
  unfold Server.summary
  constructor
  · intro read
    obtain ⟨id, idRead, read⟩ := bind_eq_ok.mp read
    obtain ⟨name, nameRead, read⟩ := bind_eq_ok.mp read
    obtain ⟨d, valueRead, read⟩ := bind_eq_ok.mp read
    obtain rfl := Except.ok.inj read
    exact ⟨d, ⟨idRead, nameRead, valueRead⟩, rfl⟩
  · obtain ⟨id, name, value⟩ := listed
    rintro ⟨d, shows, rfl⟩
    simp only [shows.id, shows.name, shows.value, bind, Except.bind, pure, Except.pure]

namespace Server
variable {s : Server} {limit : Nat}

/-- The rows of the reply that a listing gets are listed one by one. -/
theorem recent_lists (listening : s.closed = false) (runs : (s.replyTo recentSql).failure = none)
    {stored : List (Int × String × Decimal)}
    (shown : List.Forall₂ (fun row e => Shows (s.replyTo recentSql).columns row e.1 e.2.1 e.2.2)
      (s.replyTo recentSql).rows stored) :
    (s.recent limit).1 = .ok (stored.map fun e => ⟨e.1, e.2.1, e.2.2.toBinary64⟩) := by
  have answered : (query recentSql [.bigint limit] s).1 = .ok (s.replyTo recentSql) := by
    simp [query, send_open listening, runs, Reply.refuses]
  have listed : (s.replyTo recentSql).rows.mapM (summary (s.replyTo recentSql).columns) =
      .ok (stored.map fun e => ⟨e.1, e.2.1, e.2.2.toBinary64⟩) :=
    mapM_ok.mpr (List.forall₂_map_right_iff.mpr
      (shown.imp fun row e shows => summary_ok.mpr ⟨_, shows, rfl⟩))
  have rows_ : (s.recent limit).1 = Except.mapError StoreError.query (do
      let reply ← (query recentSql [.bigint limit] s).1
      (← reply.allRows).mapM (summary reply.columns)) := rfl
  have whole : (s.replyTo recentSql).allRows = .ok (s.replyTo recentSql).rows :=
    Reply.allRows_ok.mpr ⟨by simp [Reply.ending?, runs], rfl⟩
  rw [rows_, mapError_eq_ok, answered]
  simpa [whole, bind, Except.bind] using listed

section Listed
variable {e : Event} {d : Decimal}

/-- An amount is what an INSERT of its event sends, and where the server returns it a listing shows the
number it is made into. That number is the stored value if the value is whole, or the nearest number to a
decimal with few digits and none of those that are too far from theirs. Any other amount is close to its
value only, and may be zero where that is small. -/
theorem amount_listed (accepted : e.amount = .ok d) :
    (∀ s : Server, s.closed = false → (s.replyTo insertSql).refuses = false →
      ∃ r, (Server.insert e s).2.received = s.received ++ [r] ∧ r.sql = Text.collapse insertSql ∧
        r.parameters[4]? = some (.numeric d)) ∧
    (∀ (s : Server) (limit : Nat) (stored : List (Int × String × Decimal)), s.closed = false →
      (s.replyTo recentSql).failure = none →
      List.Forall₂ (fun row e => Shows (s.replyTo recentSql).columns row e.1 e.2.1 e.2.2)
        (s.replyTo recentSql).rows stored →
      (s.recent limit).1 = .ok (stored.map fun e => ⟨e.1, e.2.1, e.2.2.toBinary64⟩)) ∧
    (∀ n : ℤ, e.value.toRat = n → d.toBinary64.isFinite = true ∧ d.toBinary64.toRat = n) ∧
    (∀ (negative : Bool) (digits places : ℕ), Binary64.round negative digits (10 ^ places) = e.value →
      0 < digits → digits < 10 ^ 15 → places ≤ 22 → ¬ Decimal.Tight e.value.toRat →
      d.toBinary64 = e.value) ∧
    |d.toRat - e.value.toRat| ≤ |e.value.toRat| / 2 ^ 48 + 1 / 10 ^ 28 := by
  obtain ⟨valid, decimal⟩ := amount_eq_ok.mp accepted
  refine ⟨fun s listening runs => ?_, fun s limit stored listening runs shown => ?_, fun n whole => ?_,
    fun negative digits places written nonzero short few loose => ?_, Decimal.ofBinary64?_near decimal⟩
  · obtain ⟨fields, made, outcome⟩ := insert_open ⟨valid, d, decimal⟩ listening
    obtain ⟨-, d', decimal', rfl⟩ := eventRow_ok.mp made
    obtain rfl : d = d' := Option.some.inj (decimal.symm.trans decimal')
    rw [outcome]
    refine ⟨_, rfl, ?_⟩
    simp [runs, eventFields, Received.through]
  · exact recent_lists listening runs shown
  · exact Decimal.toRat_toBinary64_whole (Event.finite_of_validate valid) whole decimal
  · exact Decimal.toBinary64_written written nonzero few short loose decimal

end Listed

/-- The nearest number to 12.25, which is a decimal itself. -/
def quarter : Event := { purchase with value := .round false 1225 (10 ^ 2) }

/-- The nearest number to 4194304.23, where numbers are 2^-30 apart. -/
def spaced : Event := { purchase with value := .round false 419430423 (10 ^ 2) }

/-- A server with one purchase of 12.25. -/
def remembering : Server where
  host := "localhost"
  replies := [{
    columns := [⟨"id", "int8"⟩, ⟨"name", "text"⟩, ⟨"value", "numeric"⟩]
    rows := [[some [0, 0, 0, 0, 0, 0, 0, 7], some [112, 117, 114, 99, 104, 97, 115, 101],
      some [0, 2, 0, 0, 0, 0, 0, 2, 0, 12, 9, 196]]] }]

/-- 12.25 is listed as it was stored; 4194304.23 is not, and a small amount becomes zero. -/
theorem amount_listed_quarter :
    let d : Decimal := ⟨false, 1225, 2, by decide, by decide⟩
    quarter.amount = .ok d ∧ d.toBinary64 = quarter.value ∧
      (remembering.recent 10).1 = .ok [⟨7, "purchase", quarter.value⟩] ∧
      (∃ d, spaced.amount = .ok d ∧ d.toBinary64 ≠ spaced.value) ∧
      ∃ d, Event.amount { purchase with value := .round false 1 (10 ^ 30) } = .ok d ∧ d.mantissa = 0 := by
  intro d
  have accepted : quarter.amount = .ok d := by decide +kernel
  obtain ⟨-, lists, -, written, -⟩ := amount_listed accepted
  have loose : ¬ Decimal.Tight quarter.value.toRat := by decide +kernel
  have same := written false 1225 2 rfl (by decide) (by decide) (by decide) loose
  have reply : remembering.replyTo recentSql = remembering.replies.head (by decide) := by
    rw [replyTo, firstWord_recent]
    rfl
  refine ⟨accepted, same, ?_, ⟨⟨false, 4194304230000001, 9, by decide, by decide⟩, ?_, ?_⟩,
    .zero, ?_, rfl⟩
  · rw [lists remembering 10 [(7, "purchase", d)] rfl (by rw [reply]; rfl) (by
      rw [reply]
      exact .cons ⟨by decide +kernel, by decide +kernel, by decide +kernel⟩ .nil), ← same]
    rfl
  · decide +kernel
  · decide +kernel
  · decide +kernel

end Server
end Clickstream.Database
