import Clickstream.Proofs.Database.BulkLoad

/-! Single INSERTs, and many of them one after another on one connection. -/
namespace Clickstream.Database

/-- The identifier in a reply to an INSERT. -/
def Reply.identifier (r : Reply) : Except StatementFault Int := do
  let row ← r.onlyRow
  if r.columns.isEmpty then throw (.noColumn "0")
  readAt ["int8"] (readInt? 8) r.columns row 0

/-- There is an identifier only if nothing ends the rows of the reply. -/
theorem Reply.ending_of_identifier {r : Reply} {id : Int} (found : r.identifier = .ok id) :
    r.ending? .stream = none := by
  obtain ⟨row, only, -⟩ := bind_eq_ok.mp found
  cases ending : r.ending? .stream with
  | none => rfl
  | some fault =>
    unfold Reply.onlyRow at only
    rw [ending] at only
    split at only <;> simp_all

namespace Server

/-- An event that cannot be stored is refused before anything is sent. -/
theorem insert_flawed {e : Event} (flawed : ¬ e.Storable) (s : Server) :
    ∃ flaw, Server.insert e s = (.error (.invalidEvent flaw), s) := by
  cases row : eventRow e with
  | ok fields => exact absurd (storable_iff.mpr ⟨fields, row⟩) flawed
  | error flaw =>
    refine ⟨flaw, ?_⟩
    unfold Server.insert
    rw [row]
    rfl

/-- Nothing is sent after the connection has ended. -/
theorem insert_closed {e : Event} {s : Server} (storable : e.Storable) (closed : s.closed = true) :
    Server.insert e s = (.error (.query .closed), s) := by
  obtain ⟨fields, made⟩ := storable_iff.mp storable
  unfold Server.insert
  rw [made]
  simp only [bind, StateT.bind, query, send_closed closed]
  rfl

/-- On an open connection an event that can be stored is sent with its values. -/
theorem insert_open {e : Event} {s : Server} (storable : e.Storable) (listening : s.closed = false) :
    ∃ fields, eventRow e = .ok fields ∧ Server.insert e s =
      ((if (s.replyTo insertSql).failure = some .hangup then .error .closed
        else if (s.replyTo insertSql).refuses then .error .server
        else (s.replyTo insertSql).identifier).mapError .query,
        s.sent insertSql fun r => { r with parameters := fields }) := by
  obtain ⟨fields, made⟩ := storable_iff.mp storable
  refine ⟨fields, made, ?_⟩
  unfold Server.insert
  rw [made]
  simp only [bind, StateT.bind, query, send_open listening]
  split
  · rfl
  · split <;> rfl

/-- An event that can be stored is not found fault with. -/
theorem insert_valid {e : Event} (storable : e.Storable) (s : Server) (flaw : Event.Flaw) :
    (Server.insert e s).1 ≠ .error (.invalidEvent flaw) := by
  cases listening : s.closed with
  | true => simp [insert_closed storable listening]
  | false =>
    obtain ⟨fields, -, outcome⟩ := insert_open storable listening
    simp [outcome]

/-- An INSERT is answered by an identifier exactly if the event can be stored, the connection is
open, and the server runs the statement and replies with one row that starts with the identifier. -/
theorem insert_eq_ok {e : Event} {s : Server} {id : Int} :
    (Server.insert e s).1 = .ok id ↔
      e.Storable ∧ s.closed = false ∧ (s.replyTo insertSql).refuses = false ∧
        (s.replyTo insertSql).identifier = .ok id := by
  by_cases storable : e.Storable
  · cases listening : s.closed with
    | true => simp [insert_closed storable listening]
    | false =>
      obtain ⟨fields, -, outcome⟩ := insert_open storable listening
      rw [outcome, mapError_eq_ok]
      by_cases hangup : (s.replyTo insertSql).failure = some .hangup
      · simp [hangup, Reply.refuses]
      · cases refuses : (s.replyTo insertSql).refuses <;> simp [hangup, storable]
  · obtain ⟨flaw, refused⟩ := insert_flawed storable s
    simp [refused, storable]

/-- What is recorded of an INSERT that is not answered by an identifier: its values too, unless the
server refused the statement before they were sent. -/
def InsertsOrRefuses (s : Server) (e : Event) (r : Received) : Prop :=
  r.sql = Text.collapse insertSql ∧
    (Inserts e r ∨ (s.replyTo insertSql).refuses = true ∧ r.parameters = [])

theorem insert_sent {e : Event} {s : Server} (storable : e.Storable) (listening : s.closed = false) :
    ∃ r, s.InsertsOrRefuses e r ∧ (Server.insert e s).2.received = s.received ++ [r] ∧
      ((s.replyTo insertSql).refuses = false → Inserts e r) := by
  obtain ⟨fields, made, outcome⟩ := insert_open storable listening
  rw [outcome, sent_parameters]
  cases refuses : (s.replyTo insertSql).refuses with
  | true =>
    refine ⟨_, ⟨?_, .inr ⟨refuses, ?_⟩⟩, rfl, nofun⟩
    · rw [plain]
    · rw [if_pos rfl]
  | false =>
    have inserts : Inserts e { plain insertSql with parameters := fields } :=
      inserts_of_row (by rw [plain]) made
    exact ⟨_, ⟨inserts.1, .inl inserts⟩, by simp, fun _ => inserts⟩

/-- An INSERT that is answered by an identifier reached the server with its values, and the
connection stays open. -/
theorem insert_ok {e : Event} {s : Server} {id : Int} (answered : (Server.insert e s).1 = .ok id) :
    s.closed = false ∧ (Server.insert e s).2.closed = false ∧
      ∃ r, Inserts e r ∧ (Server.insert e s).2.received = s.received ++ [r] := by
  obtain ⟨storable, listening, runs, found⟩ := insert_eq_ok.mp answered
  obtain ⟨r, -, received, inserts⟩ := insert_sent storable listening
  refine ⟨listening, ?_, r, inserts runs, received⟩
  obtain ⟨fields, -, outcome⟩ := insert_open storable listening
  have stays : (s.replyTo insertSql).failure ≠ some .hangup := by
    intro hangup
    simp [Reply.refuses, hangup] at runs
  rw [outcome, sent_closed s _ _ .stream]
  simp [Reply.fault?, stays, runs, Reply.ending_of_identifier found]

/-- The server after events were inserted one after another, whatever it answered. -/
def insertAll (s : Server) (events : List Event) : Server :=
  events.foldl (fun s e => (Server.insert e s).2) s

@[simp] theorem insertAll_nil (s : Server) : s.insertAll [] = s := rfl

@[simp] theorem insertAll_cons (s : Server) (e : Event) (events : List Event) :
    s.insertAll (e :: events) = (Server.insert e s).2.insertAll events := rfl

@[simp] theorem insertAll_append (s : Server) (events more : List Event) :
    s.insertAll (events ++ more) = (s.insertAll events).insertAll more := List.foldl_append

/-- What the server answers to events that are inserted one after another. -/
def answers (s : Server) : List Event → List (Except StoreError Int)
  | [] => []
  | e :: events => (Server.insert e s).1 :: (Server.insert e s).2.answers events

/-- The events are inserted, each answered by an identifier. -/
def Accepts (s : Server) (events : List Event) : Prop := ∀ a ∈ s.answers events, ∃ id, a = .ok id

/-- The event at this place is the first that is not answered by an identifier. -/
def FailsAt (s : Server) (events : List Event) (k : Nat) (fault : StoreError) : Prop :=
  (s.answers events)[k]? = some (.error fault) ∧ s.Accepts (events.take k)

theorem accepts_cons {s : Server} {e : Event} {events : List Event} :
    s.Accepts (e :: events) ↔
      (∃ id, (Server.insert e s).1 = .ok id) ∧ (Server.insert e s).2.Accepts events := by
  simp [Accepts, answers]

theorem failsAt_zero {s : Server} {e : Event} {events : List Event} {fault : StoreError} :
    s.FailsAt (e :: events) 0 fault ↔ (Server.insert e s).1 = .error fault := by
  simp [FailsAt, Accepts, answers]

theorem failsAt_succ {s : Server} {e : Event} {events : List Event} {k : Nat} {fault : StoreError} :
    s.FailsAt (e :: events) (k + 1) fault ↔
      (∃ id, (Server.insert e s).1 = .ok id) ∧ (Server.insert e s).2.FailsAt events k fault := by
  simp only [FailsAt, List.take_succ_cons, accepts_cons, answers, List.getElem?_cons_succ]
  exact and_left_comm

theorem Accepts.of_append {events more : List Event} {s : Server}
    (accepted : s.Accepts (events ++ more)) : s.Accepts events := by
  induction events generalizing s with
  | nil => simp [Accepts, answers]
  | cons e events ih =>
    obtain ⟨answered, later⟩ := accepts_cons.mp accepted
    exact accepts_cons.mpr ⟨answered, ih later⟩

/-- Events are all accepted, or one of them is the first that is not. -/
theorem accepts_or_failsAt (events : List Event) (s : Server) :
    s.Accepts events ∨ ∃ k fault, s.FailsAt events k fault := by
  induction events generalizing s with
  | nil => exact .inl (by simp [Accepts, answers])
  | cons e events ih =>
    cases answered : (Server.insert e s).1 with
    | error fault => exact .inr ⟨0, fault, failsAt_zero.mpr answered⟩
    | ok id =>
      rcases ih (Server.insert e s).2 with later | ⟨k, fault, later⟩
      · exact .inl (accepts_cons.mpr ⟨⟨id, answered⟩, later⟩)
      · exact .inr ⟨k + 1, fault, failsAt_succ.mpr ⟨⟨id, answered⟩, later⟩⟩

/-- Accepted events are all sent, in order and with their values. -/
theorem insertAll_accepted {events : List Event} {s : Server} (accepted : s.Accepts events)
    (listening : s.closed = false) :
    (s.insertAll events).closed = false ∧
      ∃ sent, List.Forall₂ Inserts events sent ∧
        (s.insertAll events).received = s.received ++ sent := by
  induction events generalizing s with
  | nil => exact ⟨listening, [], .nil, (List.append_nil _).symm⟩
  | cons e events ih =>
    obtain ⟨⟨id, answered⟩, later⟩ := accepts_cons.mp accepted
    obtain ⟨-, open_, r, inserts, received⟩ := insert_ok answered
    obtain ⟨closed, sent, all, received'⟩ := ih later open_
    rw [insertAll_cons]
    refine ⟨closed, r :: sent, .cons inserts all, ?_⟩
    rw [received', received, List.append_assoc, List.singleton_append]

/-- Up to the first event that is not accepted all are sent, that one included. -/
theorem insertAll_failed {events : List Event} {s : Server} {k : Nat} {fault : StoreError}
    (failed : s.FailsAt events k fault) (storable : ∀ e ∈ events, e.Storable)
    (listening : s.closed = false) :
    ∃ e sent last, events[k]? = some e ∧ List.Forall₂ Inserts (events.take k) sent ∧
      (s.insertAll (events.take k)).InsertsOrRefuses e last ∧
      (s.insertAll (events.take (k + 1))).received = s.received ++ (sent ++ [last]) := by
  obtain ⟨there, accepted⟩ := failed
  obtain ⟨open_, sent, all, received⟩ := insertAll_accepted accepted listening
  have length (s : Server) (events : List Event) : (s.answers events).length = events.length := by
    induction events generalizing s with
    | nil => rfl
    | cons e events ih => simp [answers, ih]
  have inside : k < events.length := by
    rw [← length s]
    exact (List.getElem?_eq_some_iff.mp there).1
  have split : events.take (k + 1) = events.take k ++ [events[k]] :=
    (List.take_append_getElem inside).symm
  obtain ⟨last, refuses, received', -⟩ := insert_sent (storable _ (List.getElem_mem inside)) open_
  refine ⟨events[k], sent, last, List.getElem?_eq_getElem inside, all, refuses, ?_⟩
  rw [split, insertAll_append, insertAll_cons, insertAll_nil, received', received, List.append_assoc]

end Server
end Clickstream.Database
