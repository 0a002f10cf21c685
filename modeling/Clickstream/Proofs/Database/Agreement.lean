import Clickstream.Proofs.Database.Insertion

/-! Bulk loads and single INSERTs agree: they find fault with the same events for the same reasons, and
a server that fails no statement is sent the same value for every column by both. -/
namespace Clickstream.Database
open Log

/-- The server is there and fails no statement. -/
def Server.Willing (s : Server) : Prop := s.closed = false ∧ ∀ r ∈ s.replies, r.failure = none

namespace Server

theorem takeReply_mild {replies : List Reply} (mild : ∀ r ∈ replies, r.failure = none) (word : String) :
    (takeReply word replies).1.failure = none ∧
      ∀ r ∈ (takeReply word replies).2, r.failure = none := by
  cases replies with
  | nil => exact ⟨rfl, mild⟩
  | cons r rest =>
    obtain ⟨here, later⟩ := List.forall_mem_cons.mp mild
    simp only [takeReply]
    split
    · exact ⟨here, later⟩
    · exact ⟨rfl, mild⟩

theorem fault?_mild {r : Reply} (mild : r.failure = none) {last : Failure} : r.fault? last = none := by
  simp [Reply.fault?, Reply.refuses, Reply.ending?, mild]

section Willing
variable {s : Server} (willing : s.Willing)

include willing in
theorem Willing.reply (sql : String) : (s.replyTo sql).failure = none :=
  (takeReply_mild willing.2 _).1

include willing in
/-- A willing server stays so. -/
theorem Willing.sent (sql : String) (attach : Received → Received) : (s.sent sql attach).Willing := by
  refine ⟨?_, (takeReply_mild willing.2 _).2⟩
  rw [sent_closed s _ _ .stream, fault?_mild (willing.reply sql)]
  rfl

include willing in
/-- Nothing stops a load on a willing server, and its commit succeeds. -/
theorem Willing.load : s.loadFault? = none ∧ s.loadReplies.2.2.fault? .stream = none := by
  obtain ⟨start, afterStart⟩ := takeReply_mild willing.2 "START"
  obtain ⟨rows, afterRows⟩ := takeReply_mild afterStart "COPY"
  obtain ⟨commit, -⟩ := takeReply_mild afterRows "COMMIT"
  refine ⟨?_, fault?_mild commit⟩
  simp [loadFault?, loadReplies, willing.1, fault?_mild start, fault?_mild rows]

include willing in
/-- An event that can be stored is sent with its values to a willing server. -/
theorem Willing.insert {e : Event} (storable : e.Storable) :
    (Server.insert e s).2.Willing ∧
      ∃ r, Inserts e r ∧ (Server.insert e s).2.received = s.received ++ [r] := by
  have taken : (s.replyTo insertSql).refuses = false := by
    simp [Reply.refuses, willing.reply insertSql]
  obtain ⟨fields, -, outcome⟩ := insert_open storable willing.1
  obtain ⟨r, -, received, inserts⟩ := insert_sent storable willing.1
  refine ⟨?_, r, inserts taken, received⟩
  rw [outcome]
  exact willing.sent insertSql fun r => { r with parameters := fields }

/-- Events that can be stored are all sent in order, whatever identifiers a willing server gives. -/
theorem Willing.insertAll {events : List Event} (storable : ∀ e ∈ events, e.Storable)
    (willing : s.Willing) :
    ∃ sent, List.Forall₂ Inserts events sent ∧
      (s.insertAll events).received = s.received ++ sent := by
  induction events generalizing s with
  | nil => exact ⟨[], .nil, (List.append_nil _).symm⟩
  | cons e events ih =>
    obtain ⟨here, others⟩ := List.forall_mem_cons.mp storable
    obtain ⟨still, r, inserts, received⟩ := willing.insert here
    obtain ⟨sent, all, later⟩ := ih others still
    refine ⟨r :: sent, .cons inserts all, ?_⟩
    rw [insertAll_cons, later, received, List.append_assoc, List.singleton_append]

end Willing

/-- An INSERT is refused before it is sent exactly if the event has no row. -/
theorem insert_refused_iff {e : Event} {s : Server} {flaw : Event.Flaw} :
    Server.insert e s = (.error (.invalidEvent flaw), s) ↔ eventRow e = .error flaw := by
  constructor
  · intro refused
    cases row : eventRow e with
    | ok fields =>
      exact absurd (congrArg Prod.fst refused) (insert_valid (storable_iff.mpr ⟨fields, row⟩) s flaw)
    | error other =>
      have : (Server.insert e s).1 = .error (.invalidEvent other) := by
        unfold Server.insert
        rw [row]
        rfl
      rw [refused] at this
      cases this
      rfl
  · intro row
    unfold Server.insert
    rw [row]
    rfl

/-- A load finds fault with an event exactly if the events have no rows, and then before it sends
anything. -/
theorem copy_refused_iff {events : List Event} {t : Logged Server} {flaw : Event.Flaw} :
    (copy events t).1 = .error (.invalidEvent flaw) ↔ events.mapM eventRow = .error flaw := by
  constructor
  · intro refused
    cases mapped : events.mapM eventRow with
    | ok rows =>
      rw [(copy_rows mapped t).1, mapError_eq_error] at refused
      obtain ⟨_, -, ⟨⟩⟩ := refused
    | error other =>
      rw [copy_flawed mapped] at refused
      cases refused
      rfl
  · intro mapped
    rw [copy_flawed mapped]

private theorem forall₂_alike {events : List Event} {rows : List (List Field)} {sent : List Received}
    {copied : Received} (copies : copied.sql = Text.collapse copySql)
    (made : List.Forall₂ (fun e row => eventRow e = .ok row) events rows)
    (inserted : List.Forall₂ Inserts events sent) :
    List.Forall₂ (fun row r => r.sql = Text.collapse insertSql ∧
      copied.copiedRow row = r.insertedRow ∧ row.map Field.typeName = copyTypes) rows sent := by
  induction made generalizing sent with
  | nil =>
    cases inserted
    exact .nil
  | cons row _ ih =>
    cases inserted with
    | cons inserts others =>
      obtain ⟨sql, -, holds⟩ := inserts
      exact .cons ⟨sql, (carries_of_row copies row).2.unique holds, copied_types row⟩ (ih others)

/-- A bulk load agrees with inserting its events one by one. It finds fault with them before anything is
sent exactly if an INSERT of one of them alone would, and for the reason of the first of these; it
finds no fault later. Else, where neither server fails a statement, the rows that are copied in are the
rows that are inserted, in order and column by column, and their values have the announced types. -/
theorem copy_agrees_with_inserts (events : List Event) (t : Logged Server) (s : Server) :
    ((∃ flaw, copy events t = (.error (.invalidEvent flaw), t)) ↔
      ∃ e ∈ events, ∃ flaw, Server.insert e s = (.error (.invalidEvent flaw), s)) ∧
    (∀ flaw, (copy events t).1 = .error (.invalidEvent flaw) →
      copy events t = (.error (.invalidEvent flaw), t) ∧
      ∃ (k : Nat) (e : Event), events[k]? = some e ∧
        Server.insert e s = (.error (.invalidEvent flaw), s) ∧
        ∀ j < k, ∀ e', events[j]? = some e' → ∀ other,
          Server.insert e' s ≠ (.error (.invalidEvent other), s)) ∧
    ((∀ e ∈ events, ∀ flaw, Server.insert e s ≠ (.error (.invalidEvent flaw), s)) →
      t.state.Willing → s.Willing →
      ∃ n copied rows sent, (copy events t).1 = .ok n ∧
        (copy events t).2.state.received =
          t.state.received ++ [plain "START TRANSACTION", copied, plain "COMMIT"] ∧
        copied.sql = Text.collapse copySql ∧ copied.copied = some rows ∧
        rows.length = events.length ∧ (columnsOf copied.sql).length = copyTypes.length ∧
        (s.insertAll events).received = s.received ++ sent ∧
        List.Forall₂ (fun row r => r.sql = Text.collapse insertSql ∧
          copied.copiedRow row = r.insertedRow ∧ row.map Field.typeName = copyTypes) rows sent) := by
  simp only [ne_eq, insert_refused_iff]
  have first {flaw : Event.Flaw} (refused : events.mapM eventRow = .error flaw) :
      ∃ (k : Nat) (e : Event), events[k]? = some e ∧ eventRow e = .error flaw ∧
        ∀ j < k, ∀ e', events[j]? = some e' → ∀ other, ¬ eventRow e' = .error other := by
    obtain ⟨k, e, there, flawed, earlier⟩ := mapM_error.mp refused
    refine ⟨k, e, there, flawed, fun j hj e' there' other failed => ?_⟩
    obtain ⟨_, row, here, read⟩ := earlier j hj
    obtain rfl := Option.some.inj (here.symm.trans there')
    rw [read] at failed
    cases failed
  refine ⟨⟨fun ⟨flaw, refused⟩ => ?_, fun ⟨e, there, flaw, flawed⟩ => ?_⟩, fun flaw refused => ?_,
    fun sound willing willing' => ?_⟩
  · obtain ⟨k, e, there, flawed, -⟩ := first (copy_refused_iff.mp (congrArg Prod.fst refused))
    exact ⟨e, List.mem_of_getElem? there, flaw, flawed⟩
  · have notStorable : ¬ e.Storable := fun ⟨valid, d, decimal⟩ => by
      rw [eventRow_ok.mpr ⟨valid, d, decimal, rfl⟩] at flawed
      cases flawed
    obtain ⟨-, -, reason, -, mapped⟩ := flaw_of_not_storable ⟨e, there, notStorable⟩
    exact ⟨reason, copy_flawed mapped t⟩
  · have mapped := copy_refused_iff.mp refused
    exact ⟨copy_flawed mapped t, first mapped⟩
  · have storable : ∀ e ∈ events, e.Storable := by
      intro e there
      cases row : eventRow e with
      | error flaw => exact absurd row (sound e there flaw)
      | ok fields => exact storable_iff.mpr ⟨fields, row⟩
    obtain ⟨rows, mapped, made⟩ := rows_of_storable storable
    obtain ⟨answer, state⟩ := copy_rows mapped t
    obtain ⟨running, commits⟩ := willing.load
    obtain ⟨result, copied, sql, taken, received⟩ := load_committed running rows
    obtain ⟨sent, inserted, received'⟩ := Willing.insertAll storable willing'
    rw [commits] at result
    refine ⟨_, copied, rows, sent, by rw [answer, result]; rfl, by rw [state, received], sql, taken,
      made.length_eq.symm, ?_, received', forall₂_alike sql made inserted⟩
    rw [sql]
    exact columns_length

/-- An event without a name, which no relation holds. -/
def nameless : Event := { pageView with name := " " }

/-- A purchase of nothing in particular. -/
def purchase : Event := { pageView with accountId := "a", name := "purchase", value := .ofNat 12 }

theorem copy_agrees_with_inserts_quiet :
    (∃ flaw, copy [pageView, nameless] quiet = (.error (.invalidEvent flaw), quiet)) ∧
      (quiet.state.Willing ∧
        ∀ e ∈ [pageView, purchase], ∀ flaw,
          Server.insert e quiet.state ≠ (.error (.invalidEvent flaw), quiet.state)) ∧
      ∃ copied rows sent, (copy [pageView, purchase] quiet).2.state.received =
          [plain "START TRANSACTION", copied, plain "COMMIT"] ∧
        copied.copied = some rows ∧ rows.length = 2 ∧
        (quiet.state.insertAll [pageView, purchase]).received = sent ∧
        List.Forall₂ (fun row r => r.sql = Text.collapse insertSql ∧
          copied.copiedRow row = r.insertedRow ∧ row.map Field.typeName = copyTypes) rows sent := by
  have willing : quiet.state.Willing := ⟨rfl, by simp [quiet]⟩
  have sound : ∀ e ∈ [pageView, purchase], ∀ flaw,
      Server.insert e quiet.state ≠ (.error (.invalidEvent flaw), quiet.state) := by
    have valid : ∀ e ∈ [pageView, purchase], e.validate = .ok () ∧
        (Decimal.ofBinary64? e.value).isSome := by decide +kernel
    intro e there flaw refused
    obtain ⟨sound, some_⟩ := valid e there
    exact insert_valid ⟨sound, Option.isSome_iff_exists.mp some_⟩ _ flaw (congrArg Prod.fst refused)
  refine ⟨?_, ⟨willing, sound⟩, ?_⟩
  · obtain ⟨refuses, -⟩ := copy_agrees_with_inserts [pageView, nameless] quiet quiet.state
    refine refuses.mpr ⟨nameless, by simp, .unnamed, insert_refused_iff.mpr ?_⟩
    decide +kernel
  · obtain ⟨-, -, agrees⟩ := copy_agrees_with_inserts [pageView, purchase] quiet quiet.state
    obtain ⟨-, copied, rows, sent, -, received, -, taken, length, -, received', alike⟩ :=
      agrees sound willing willing
    exact ⟨copied, rows, sent, received, taken, length, received', alike⟩

end Server
end Clickstream.Database
