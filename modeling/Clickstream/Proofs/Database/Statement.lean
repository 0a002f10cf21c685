import Clickstream.Database.Store
import Clickstream.Proofs.Outcome
import Clickstream.Proofs.Text.Blank

/-! What one statement does to a server: the reply it takes, what is recorded, and how it ends. -/
namespace Clickstream.Database

/-- How a statement ends that gets this reply. Its last failure is the one that shows only after
everything else went well. -/
def Reply.fault? (last : Failure) (r : Reply) : Option StatementFault :=
  if r.failure = some .hangup then some .closed
  else if r.refuses then some .server
  else r.ending? last

section Reply
variable {r : Reply} {last : Failure}

/-- Where nothing ends the statement everything comes through. -/
theorem Reply.through_of_ending {α : Type} (ends : r.ending? last = none) (rows : List α) :
    r.through rows = rows := by
  have whole : ∀ n, r.failure ≠ some (.cut n) := by
    intro n lost
    simp [Reply.ending?, lost] at ends
  unfold Reply.through
  split
  · rename_i n lost
    exact absurd lost (whole n)
  · rfl

theorem Reply.through_prefix {α : Type} (r : Reply) (rows : List α) : r.through rows <+: rows := by
  unfold Reply.through
  split
  · exact List.take_prefix _ _
  · exact List.prefix_rfl

theorem Reply.ending_of_fault (runs : r.fault? last = none) : r.ending? last = none := by
  unfold Reply.fault? at runs
  split at runs
  · cases runs
  · split at runs
    · cases runs
    · exact runs

/-- All rows are there exactly if nothing ends them. -/
theorem Reply.allRows_ok {rows : List (List WireCell)} :
    r.allRows = .ok rows ↔ r.ending? .stream = none ∧ r.rows = rows := by
  unfold Reply.allRows
  cases ends : r.ending? .stream with
  | some fault => simp
  | none => simp [Reply.arrived, Reply.through_of_ending ends]

/-- The connection is gone after a statement exactly if that is how the statement ends. -/
theorem Reply.breaks_eq (r : Reply) (last : Failure) :
    r.breaks = decide (r.fault? last = some .closed) := by
  unfold Reply.breaks Reply.fault? Reply.refuses Reply.ending?
  cases r.failure with
  | none => rfl
  | some failure => cases failure <;> simp

end Reply

namespace Server

/-- What a statement starts with up to a space is its first word. -/
theorem firstWord_of_starts {sql : String} {word : List Char}
    (starts : ∃ rest, sql.toList = word ++ ' ' :: rest) (some_ : word ≠ [])
    (solid : ∀ c ∈ word, Text.isBlank c = false) : firstWord sql = String.ofList word := by
  obtain ⟨rest, starts⟩ := starts
  have apart : ∀ c ∈ word, (c == ' ') = false := by
    intro c there
    rw [beq_eq_false_iff_ne]
    rintro rfl
    exact absurd (solid _ there) (by decide)
  unfold firstWord Text.splitAt
  rcases Text.collapse_starts starts some_ solid with collapsed | ⟨more, collapsed⟩
  · rw [collapsed, Text.pieces_solid apart]
    rfl
  · rw [collapsed, Text.pieces_append apart (by decide)]
    rfl

/-- Every statement of a query begins with the same word. -/
theorem firstWord_statement (q : Query) : firstWord q.statement = "SELECT" := by
  have starts : ∃ rest, q.statement.toList = ['S', 'E', 'L', 'E', 'C', 'T'] ++ ' ' :: rest := by
    unfold Query.statement
    simp only [String.toList_append, List.append_assoc]
    cases q.measures.isEmpty <;> simp
  exact firstWord_of_starts starts (by simp) (Text.isBlank_of_upper rfl)

/-- The reply that the server has for a statement. -/
def replyTo (s : Server) (sql : String) : Reply := (takeReply (firstWord sql) s.replies).1

/-- The server after a statement has reached it. -/
def sent (s : Server) (sql : String) (attach : Received → Received) : Server :=
  let bare : Received := { sql := Text.collapse sql }
  { s with
    replies := (takeReply (firstWord sql) s.replies).2
    received := s.received ++
      [if (s.replyTo sql).refuses then bare else (attach bare).through (s.replyTo sql)]
    closed := (s.replyTo sql).breaks }

theorem sent_replies (s : Server) (sql : String) (attach : Received → Received) :
    (s.sent sql attach).replies = (takeReply (firstWord sql) s.replies).2 := rfl

/-- A statement without anything that belongs to it, as it is recorded. -/
def plain (sql : String) : Received := { sql := Text.collapse sql }

/-- A statement without anything that belongs to it is recorded as it is, whatever the reply. -/
theorem sent_plain (s : Server) (sql : String) :
    (s.sent sql id).received = s.received ++ [plain sql] := by
  unfold sent
  split <;> rfl

/-- A statement is recorded with its parameters, unless it is refused before they are sent. -/
theorem sent_parameters (s : Server) (sql : String) (parameters : List Field) :
    (s.sent sql fun r => { r with parameters }).received = s.received ++
      [{ plain sql with parameters := if (s.replyTo sql).refuses then [] else parameters }] := by
  unfold sent
  cases (s.replyTo sql).refuses <;> rfl

/-- What belongs to a statement is not its text. -/
theorem sent_received (s : Server) (sql : String) (attach : Received → Received)
    (keeps : ∀ r, (attach r).sql = r.sql) :
    ∃ r, r.sql = Text.collapse sql ∧ (s.sent sql attach).received = s.received ++ [r] := by
  refine ⟨_, ?_, rfl⟩
  split
  · rfl
  · exact keeps _

theorem send_closed {s : Server} (closed : s.closed = true) (sql : String)
    (attach : Received → Received) : send sql attach s = (.error .closed, s) := by
  unfold send
  rw [if_pos closed]

theorem send_open {s : Server} (listening : s.closed = false) (sql : String)
    (attach : Received → Received) :
    send sql attach s =
      (if (s.replyTo sql).failure = some .hangup then .error .closed
        else if (s.replyTo sql).refuses then .error .server else .ok (s.replyTo sql),
        s.sent sql attach) := by
  unfold send
  rw [if_neg (by simp [listening])]
  rfl

theorem query_state (s : Server) (sql : String) (parameters : List Field) :
    (query sql parameters s).2 = if s.closed then s
      else s.sent sql fun r => { r with parameters } := by
  cases closed : s.closed with
  | true => simp [query, send_closed closed]
  | false => simp [query, send_open closed]

/-- A statement for rows is answered exactly if the server listens and does not refuse it. -/
theorem query_ok {s : Server} {sql : String} {parameters : List Field} {reply : Reply} :
    (query sql parameters s).1 = .ok reply ↔
      s.closed = false ∧ (s.replyTo sql).refuses = false ∧ s.replyTo sql = reply := by
  unfold query
  cases closed : s.closed with
  | true => simp [send_closed closed]
  | false =>
    rw [send_open closed]
    by_cases hangup : (s.replyTo sql).failure = some .hangup
    · simp [hangup, Reply.refuses]
    · cases refuses : (s.replyTo sql).refuses <;> simp [hangup]

/-- A query on the server comes to the stream of its reply, or it fails as a statement. -/
theorem execute_ok {s : Server} {sql : String} {rows : RowStream} :
    (Server.execute sql s).1 = .ok rows ↔
      s.closed = false ∧ (s.replyTo sql).refuses = false ∧ (s.replyTo sql).stream = rows := by
  have answer : (Server.execute sql s).1 =
      ((query sql [] s).1.map Reply.stream).mapError .query := rfl
  simp only [answer, mapError_eq_ok, map_eq_ok, query_ok]
  constructor
  · rintro ⟨_, ⟨listening, runs, rfl⟩, rfl⟩
    exact ⟨listening, runs, rfl⟩
  · rintro ⟨listening, runs, rfl⟩
    exact ⟨_, ⟨listening, runs, rfl⟩, rfl⟩

theorem execute_error {s : Server} {sql : String} {e : StoreError}
    (failed : (Server.execute sql s).1 = .error e) : ∃ fault, e = .query fault := by
  have answer : (Server.execute sql s).1 =
      ((query sql [] s).1.map Reply.stream).mapError .query := rfl
  rw [answer, mapError_eq_error] at failed
  obtain ⟨fault, -, rfl⟩ := failed
  exact ⟨fault, rfl⟩

theorem command_closed {s : Server} (closed : s.closed = true) (sql : String) :
    command sql s = (.error .closed, s) := by
  simp only [command, bind, StateT.bind, send_closed closed]
  rfl

private theorem send_last {α : Type} {s : Server} (listening : s.closed = false) (sql : String)
    (attach : Received → Received) (last : Failure) (value : Reply → α) :
    (do
      match ← send sql attach with
      | .error fault => return .error fault
      | .ok reply =>
        match reply.ending? last with
        | some fault => return .error fault
        | none => return .ok (value reply) :
        StateM Server (Except StatementFault α)) s =
      (match (s.replyTo sql).fault? last with
        | some fault => .error fault
        | none => .ok (value (s.replyTo sql)), s.sent sql attach) := by
  simp only [bind, StateT.bind, send_open listening]
  unfold Reply.fault?
  by_cases hangup : (s.replyTo sql).failure = some .hangup
  · simp only [hangup, ↓reduceIte]
    rfl
  by_cases refuses : (s.replyTo sql).refuses
  · simp only [hangup, refuses, ↓reduceIte]
    rfl
  · simp only [hangup, refuses, Bool.false_eq_true, ↓reduceIte]
    cases (s.replyTo sql).ending? last <;> rfl

theorem command_open {s : Server} (listening : s.closed = false) (sql : String) :
    command sql s =
      (match (s.replyTo sql).fault? .stream with
        | some fault => .error fault
        | none => .ok (), s.sent sql id) :=
  send_last listening sql id .stream fun _ => ()

theorem copyIn_open {s : Server} (listening : s.closed = false) (sql : String)
    (rows : List (List Field)) :
    copyIn sql rows s =
      (match (s.replyTo sql).fault? .copy with
        | some fault => .error fault
        | none => .ok ((s.replyTo sql).count.getD rows.length),
        s.sent sql fun r => { r with copied := some rows }) :=
  send_last listening sql _ .copy fun reply => reply.count.getD rows.length

theorem transaction_eq {α : Type} (action : StateM Server (Except StatementFault α)) (s : Server) :
    transaction action s =
      match command "START TRANSACTION" s with
      | (.error fault, s) => (.error fault, (command "ROLLBACK" s).2)
      | (.ok (), s) =>
        match action s with
        | (.error fault, s) => (.error fault, (command "ROLLBACK" s).2)
        | (.ok a, s) => ((command "COMMIT" s).1.map fun _ => a, (command "COMMIT" s).2) := by
  simp only [transaction, bind, StateT.bind, pure]
  generalize command "START TRANSACTION" s = started
  obtain ⟨_ | _, s⟩ := started
  · rfl
  · simp only [StateT.bind]
    generalize action s = acted
    obtain ⟨_ | _, s⟩ := acted
    · rfl
    · simp only [bind, StateT.bind]
      generalize command "COMMIT" s = committed
      obtain ⟨_ | _, s⟩ := committed <;> rfl

theorem transaction_closed {α : Type} {s : Server} (closed : s.closed = true)
    (action : StateM Server (Except StatementFault α)) :
    transaction action s = (.error .closed, s) := by
  rw [transaction_eq, command_closed closed]
  simp only [command_closed closed]

/-- The connection ends with a statement exactly if that is how the statement ends. -/
theorem sent_closed (s : Server) (sql : String) (attach : Received → Received) (last : Failure) :
    (s.sent sql attach).closed = decide ((s.replyTo sql).fault? last = some .closed) :=
  (s.replyTo sql).breaks_eq last

end Server
end Clickstream.Database
