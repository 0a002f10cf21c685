import Clickstream.Proofs.Database.Columns
import Clickstream.Proofs.Database.Statement
import Mathlib.Data.List.TakeWhile

/-! Bulk loads are all or nothing: what the server is sent for one, whatever it replies, and how the
transactions of many operations lie one after another. -/
namespace Clickstream.Database
namespace Server

/-- The replies that the server has for the statements of a bulk load: to its start, to the rows,
and to the commit. -/
def loadReplies (s : Server) : Reply × Reply × Reply :=
  let (start, rest) := takeReply "START" s.replies
  let (rows, rest) := takeReply "COPY" rest
  (start, rows, (takeReply "COMMIT" rest).1)

/-- What stops a bulk load before its commit, if anything does. -/
def loadFault? (s : Server) : Option StatementFault :=
  if s.closed then some .closed
  else (s.loadReplies.1.fault? .stream).or (s.loadReplies.2.1.fault? .copy)

/-- The statements that a bulk load tries before it is stopped. -/
def triedSql (s : Server) : List String :=
  if s.closed then []
  else if s.loadReplies.1.fault? .stream = none then ["START TRANSACTION", Text.collapse copySql]
  else ["START TRANSACTION"]

private theorem copySql_starts : ∃ rest, copySql.toList = ['C', 'O', 'P', 'Y'] ++ ' ' :: rest := by
  unfold copySql
  simp

/-- The statements that begin and end transactions. -/
def transactionSql : List String := ["START TRANSACTION", "COMMIT", "ROLLBACK"]

private theorem transaction_words :
    (firstWord "START TRANSACTION" = "START" ∧ firstWord "COMMIT" = "COMMIT") ∧
      ∀ sql ∈ transactionSql, Text.collapse sql = sql ∧
        String.ofList (sql.toList.takeWhile fun c => !Text.isBlank c) ∈ transactionWords := by
  decide +kernel

private theorem collapsed_transaction :
    Text.collapse "START TRANSACTION" = "START TRANSACTION" ∧ Text.collapse "COMMIT" = "COMMIT" ∧
      Text.collapse "ROLLBACK" = "ROLLBACK" := by
  have recorded := fun sql mem => (transaction_words.2 sql mem).1
  exact ⟨recorded _ (by simp [transactionSql]), recorded _ (by simp [transactionSql]),
    recorded _ (by simp [transactionSql])⟩

private theorem transaction_differs {word : List Char} (other : String.ofList word ∉ transactionWords) :
    ∀ sql ∈ transactionSql, sql.toList.takeWhile (fun c => !Text.isBlank c) ≠ word := by
  rintro sql mem rfl
  exact other (transaction_words.2 sql mem).2

private theorem firstWord_copy : firstWord copySql = "COPY" :=
  firstWord_of_starts copySql_starts (by simp) (Text.isBlank_of_upper rfl)

private theorem rollback_sent (s : Server) :
    (command "ROLLBACK" s).2.received =
        s.received ++ (if s.closed then [] else [plain "ROLLBACK"]) ∧
      (s.closed = true → (command "ROLLBACK" s).2.closed = true) := by
  cases listening : s.closed with
  | true => simp [command_closed listening, listening]
  | false => simp [command_open listening, sent_plain]

section Listening
variable {s : Server} (rows : List (List Field))

private def started (s : Server) : Server := s.sent "START TRANSACTION" id

private def filled (s : Server) (rows : List (List Field)) : Server :=
  s.started.sent copySql fun r => { r with copied := some rows }

private theorem started_received (s : Server) :
    s.started.received = s.received ++ [plain "START TRANSACTION"] := s.sent_plain _

private theorem filled_received (s : Server) : ∃ r, r.sql = Text.collapse copySql ∧
    (s.filled rows).received = s.received ++ [plain "START TRANSACTION", r] ∧
    (∀ copied, r.copied = some copied → copied <+: rows) ∧
    ((s.started.replyTo copySql).fault? .copy = none → r.copied = some rows) := by
  have received : (s.filled rows).received = s.started.received ++
      [if (s.started.replyTo copySql).refuses then plain copySql
        else { plain copySql with copied := some rows }.through (s.started.replyTo copySql)] := rfl
  rw [started_received, List.append_assoc, List.singleton_append] at received
  refine ⟨_, ?_, received, ?_, fun running => ?_⟩
  · split <;> simp only [Received.through, plain]
  · split
    · simp [plain]
    · intro copied same
      obtain rfl := Option.some.inj same
      exact Reply.through_prefix _ _
  · rw [if_neg]
    · exact congrArg some (Reply.through_of_ending (Reply.ending_of_fault running) _)
    · intro refuses
      simp only [Reply.fault?, refuses, ↓reduceIte] at running
      split at running <;> cases running

private theorem loadReplies_eq (s : Server) (rows : List (List Field)) :
    s.loadReplies = (s.replyTo "START TRANSACTION", s.started.replyTo copySql,
      (s.filled rows).replyTo "COMMIT") := by
  simp only [loadReplies, replyTo, started, filled, sent, transaction_words.1.1,
    transaction_words.1.2, firstWord_copy]

private theorem load_listening (listening : s.closed = false) :
    transaction (copyIn copySql rows) s =
      match s.loadReplies.1.fault? .stream with
      | some fault => (.error fault, (command "ROLLBACK" s.started).2)
      | none =>
        match s.loadReplies.2.1.fault? .copy with
        | some fault => (.error fault, (command "ROLLBACK" (s.filled rows)).2)
        | none =>
          (match s.loadReplies.2.2.fault? .stream with
            | some fault => .error fault
            | none => .ok (s.loadReplies.2.1.count.getD rows.length),
            (s.filled rows).sent "COMMIT" id) := by
  have starts : command "START TRANSACTION" s = (_, s.started) := command_open listening _
  rw [loadReplies_eq s rows, transaction_eq]
  cases first : (s.replyTo "START TRANSACTION").fault? .stream with
  | some fault =>
    rw [first] at starts
    rw [starts]
  | none =>
    rw [first] at starts
    have still : s.started.closed = false := by
      rw [started, sent_closed s _ _ .stream, first]
      rfl
    have copies : copyIn copySql rows s.started = (_, s.filled rows) := copyIn_open still _ _
    rw [starts]
    cases second : (s.started.replyTo copySql).fault? .copy with
    | some fault =>
      rw [second] at copies
      simp only [copies]
    | none =>
      rw [second] at copies
      have open_ : (s.filled rows).closed = false := by
        rw [filled, sent_closed s.started _ _ .copy, second]
        rfl
      simp only [copies, command_open open_]
      cases ((s.filled rows).replyTo "COMMIT").fault? .stream <;> rfl

end Listening

/-- A load that is stopped is rolled back where the server still listens, and is not committed. Of its rows
those that the server was sent are the first. -/
theorem load_stopped {s : Server} {fault : StatementFault} (stopped : s.loadFault? = some fault)
    (rows : List (List Field)) :
    (transaction (copyIn copySql rows) s).1 = .error fault ∧ ∃ tried,
      (transaction (copyIn copySql rows) s).2.received =
        s.received ++ (tried ++ (if fault = .closed then [] else [plain "ROLLBACK"])) ∧
      tried.map Received.sql = s.triedSql ∧
      (∀ r ∈ tried, ∀ copied, r.copied = some copied →
        r.sql = Text.collapse copySql ∧ copied <+: rows) ∧
      (fault = .closed → (transaction (copyIn copySql rows) s).2.closed = true) := by
  unfold triedSql
  cases listening : s.closed with
  | true =>
    have : fault = .closed := by simpa [loadFault?, listening, eq_comm] using stopped
    subst this
    rw [transaction_closed listening]
    exact ⟨rfl, [], by simp, rfl, by simp, fun _ => listening⟩
  | false =>
    rw [load_listening rows listening]
    simp only [loadFault?, listening, Bool.false_eq_true, ↓reduceIte] at stopped ⊢
    cases first : s.loadReplies.1.fault? .stream with
    | some early =>
      obtain rfl : early = fault := by simpa [first] using stopped
      obtain ⟨received, closed⟩ := rollback_sent s.started
      have ended : s.started.closed = decide (early = .closed) := by
        rw [loadReplies_eq s rows] at first
        rw [started, sent_closed s _ _ .stream, first]
        simp
      refine ⟨rfl, [plain "START TRANSACTION"], ?_, ?_, by simp [plain], fun h => closed ?_⟩
      · simp only [received, ended, started_received, decide_eq_true_eq, List.append_assoc]
      · simp [plain, collapsed_transaction.1]
      · simp [ended, h]
    | none =>
      have second : s.loadReplies.2.1.fault? .copy = some fault := by simpa [first] using stopped
      obtain ⟨received, closed⟩ := rollback_sent (s.filled rows)
      obtain ⟨r, sql, copied, first_, -⟩ := filled_received (s := s) rows
      rw [second]
      have ended : (s.filled rows).closed = decide (fault = .closed) := by
        rw [loadReplies_eq s rows] at second
        rw [filled, sent_closed s.started _ _ .copy, second]
        simp
      refine ⟨rfl, [plain "START TRANSACTION", r], ?_, ?_, ?_, fun h => closed ?_⟩
      · simp only [received, ended, copied, decide_eq_true_eq, List.append_assoc]
      · simp [plain, collapsed_transaction.1, sql]
      · simpa [plain, sql] using first_
      · simp [ended, h]

/-- A load that is not stopped has its rows taken, and is committed. -/
theorem load_committed {s : Server} (running : s.loadFault? = none) (rows : List (List Field)) :
    (transaction (copyIn copySql rows) s).1 =
        (match s.loadReplies.2.2.fault? .stream with
          | some fault => .error fault
          | none => .ok (s.loadReplies.2.1.count.getD rows.length)) ∧
      ∃ r, r.sql = Text.collapse copySql ∧ r.copied = some rows ∧
        (transaction (copyIn copySql rows) s).2.received =
          s.received ++ [plain "START TRANSACTION", r, plain "COMMIT"] := by
  have listening : s.closed = false := by
    cases closed : s.closed with
    | false => rfl
    | true => simp [loadFault?, closed] at running
  simp only [loadFault?, listening, Bool.false_eq_true, ↓reduceIte, Option.or_eq_none_iff] at running
  obtain ⟨first, second⟩ := running
  obtain ⟨r, sql, received, -, copied⟩ := filled_received (s := s) rows
  have taken := second
  rw [loadReplies_eq s rows] at taken
  rw [load_listening rows listening, first, second]
  refine ⟨rfl, r, sql, copied taken, ?_⟩
  simp [sent_plain, received]

/-- Events that cannot all be stored are not sent. -/
theorem copy_flawed {events : List Event} {flaw : Event.Flaw}
    (flawed : events.mapM eventRow = .error flaw) (t : Log.Logged Server) :
    copy events t = (.error (.invalidEvent flaw), t) := by
  rw [← paired_rows, map_eq_error] at flawed
  unfold copy
  rw [flawed]
  rfl

/-- The rows of storable events are sent in one transaction. -/
theorem copy_rows {events : List Event} {rows : List (List Field)}
    (mapped : events.mapM eventRow = .ok rows) (t : Log.Logged Server) :
    (copy events t).1 = (transaction (copyIn copySql rows) t.state).1.mapError .query ∧
      (copy events t).2.state = (transaction (copyIn copySql rows) t.state).2 := by
  obtain ⟨amounts, found, paired⟩ := map_eq_ok.mp ((paired_rows events).trans mapped)
  unfold copy
  simp only [found, paired, bind, StateT.bind, Log.Logging.silent, StateT.run]
  generalize transaction (copyIn copySql rows) t.state = outcome
  obtain ⟨_ | _, s⟩ := outcome <;> exact ⟨rfl, rfl⟩

/-- An operation of the store on its connection. -/
inductive Operation where
  | ensureSchema
  | insert (e : Event)
  | recent (limit : Nat)
  | copy (events : List Event)
  /-- A statement of the caller's. -/
  | execute (sql : String)

/-- What an operation leaves of the server. -/
def Operation.run : Operation → Log.Logged Server → Log.Logged Server
  | .ensureSchema, t => (Log.Logging.silent Server.ensureSchema t).2
  | .insert e, t => (Log.Logging.silent (Server.insert e) t).2
  | .recent limit, t => (Log.Logging.silent (Server.recent limit) t).2
  | .copy events, t => (Server.copy events t).2
  | .execute sql, t => (Log.Logging.silent (Server.execute sql) t).2

/-- The statements have nothing to do with transactions, or they are one: the first begins it, the
last closes it, and none between them does either. -/
def Bracketed (statements : List String) : Prop :=
  (∀ sql ∈ statements, sql ∉ transactionSql) ∨
    ∃ between last, statements = "START TRANSACTION" :: between ++ [last] ∧
      (last = "COMMIT" ∨ last = "ROLLBACK") ∧ ∀ sql ∈ between, sql ∉ transactionSql

/-- What an operation sends: a statement of the caller's as it is, and of its own nothing that would
leave a transaction open. -/
def Operation.Sends (o : Operation) (sent : List Received) : Prop :=
  match o with
  | .execute sql => sent = [plain sql]
  | _ => Bracketed (sent.map Received.sql)

private theorem command_state (s : Server) (sql : String) :
    (command sql s).2 = if s.closed then s else s.sent sql id := by
  cases closed : s.closed with
  | true => simp [command_closed closed]
  | false => simp [command_open closed]

private theorem insert_state (s : Server) (e : Event) :
    (Server.insert e s).2 = match eventRow e with
      | .error _ => s
      | .ok fields => (query insertSql fields s).2 := by
  unfold Server.insert
  cases eventRow e <;> rfl

private theorem collapse_ne {sql other : String} {word : List Char}
    (starts : ∃ rest, sql.toList = word ++ ' ' :: rest) (some_ : word ≠ [])
    (solid : ∀ c ∈ word, Text.isBlank c = false)
    (differs : other.toList.takeWhile (fun c => !Text.isBlank c) ≠ word) :
    Text.collapse sql ≠ other := by
  intro same
  obtain ⟨rest, starts⟩ := starts
  have whole : word.takeWhile (fun c => !Text.isBlank c) = word :=
    List.takeWhile_eq_self_iff.mpr fun c hc => by rw [solid c hc]; rfl
  refine differs ?_
  rw [← same]
  rcases Text.collapse_starts starts some_ solid with collapsed | ⟨more, collapsed⟩
  · rw [collapsed, whole]
  · rw [collapsed, List.takeWhile_append_of_pos fun c hc => by rw [solid c hc]; rfl]
    simp [Text.isBlank, Text.inRanges, Text.blankRanges]

set_option maxRecDepth 1000 in
private theorem createSql_starts :
    ∃ rest, createSql.toList = ['C', 'R', 'E', 'A', 'T', 'E'] ++ ' ' :: rest := by
  unfold createSql
  simp only [String.append_assoc]
  rw [String.toList_append]
  generalize String.toList (_ ++ _) = more
  simp

private theorem insertSql_starts :
    ∃ rest, insertSql.toList = ['I', 'N', 'S', 'E', 'R', 'T'] ++ ' ' :: rest := by
  unfold insertSql
  simp only [String.toList_append, List.append_assoc]
  simp

theorem firstWord_create : firstWord createSql = "CREATE" :=
  firstWord_of_starts createSql_starts (by simp) (Text.isBlank_of_upper rfl)

theorem firstWord_insert : firstWord insertSql = "INSERT" :=
  firstWord_of_starts insertSql_starts (by simp) (Text.isBlank_of_upper rfl)

private theorem recentSql_starts :
    ∃ rest, recentSql.toList = ['S', 'E', 'L', 'E', 'C', 'T'] ++ ' ' :: rest := by
  unfold recentSql
  simp

theorem firstWord_recent : firstWord recentSql = "SELECT" :=
  firstWord_of_starts recentSql_starts (by simp) (Text.isBlank_of_upper rfl)

private theorem copySql_not_transaction : Text.collapse copySql ∉ transactionSql := by
  intro among
  exact collapse_ne copySql_starts (by simp) (Text.isBlank_of_upper rfl)
    (transaction_differs (by simp [transactionWords]) _ among) rfl

private theorem bracketed_single {sql : String} {word : List Char} {r : Received}
    (is : r.sql = Text.collapse sql) (starts : ∃ rest, sql.toList = word ++ ' ' :: rest)
    (some_ : word ≠ []) (upper : word.all (Text.inRanges [(65, 90)]) = true)
    (other : String.ofList word ∉ transactionWords) : Bracketed ([r].map Received.sql) := by
  left
  rintro _ (_ | ⟨_, ⟨⟩⟩)
  intro among
  rw [is] at among
  exact collapse_ne starts some_ (Text.isBlank_of_upper upper) (transaction_differs other _ among) rfl

private theorem run_state (o : Operation) (t : Log.Logged Server) :
    (o.run t).state =
      match o with
      | .ensureSchema => (command createSql t.state).2
      | .insert e => match eventRow e with
        | .error _ => t.state
        | .ok fields => (query insertSql fields t.state).2
      | .recent limit => (query recentSql [.bigint limit] t.state).2
      | .copy events => (Server.copy events t).2.state
      | .execute sql => (query sql [] t.state).2 := by
  cases o with
  | insert e => exact insert_state t.state e
  | _ => rfl

/-- On a connection that has ended nothing is sent. -/
theorem run_closed {t : Log.Logged Server} (closed : t.state.closed = true) (o : Operation) :
    (o.run t).state = t.state := by
  rw [run_state]
  cases o with
  | ensureSchema => rw [command_state, if_pos closed]
  | insert e =>
    cases row : eventRow e with
    | error flaw => simp only [row]
    | ok fields => simp only [row, query_state, if_pos closed]
  | recent limit => simp only [query_state, if_pos closed]
  | copy events =>
    cases mapped : events.mapM eventRow with
    | error flaw => simp only [copy_flawed mapped]
    | ok rows => simp only [(copy_rows mapped t).2, transaction_closed closed]
  | execute sql => simp only [query_state, if_pos closed]

private theorem load_bracketed {s : Server} (rows : List (List Field))
    (ends : (transaction (copyIn copySql rows) s).2.closed = false) :
    ∃ sent, (transaction (copyIn copySql rows) s).2.received = s.received ++ sent ∧
      Bracketed (sent.map Received.sql) := by
  obtain ⟨start, commit, rollback⟩ := collapsed_transaction
  have between : ∀ sql ∈ [Text.collapse copySql], sql ∉ transactionSql := by
    simpa using copySql_not_transaction
  cases stopped : s.loadFault? with
  | none =>
    obtain ⟨-, r, sql, -, received⟩ := load_committed stopped rows
    refine ⟨_, received, .inr ⟨[Text.collapse copySql], "COMMIT", ?_, .inl rfl, between⟩⟩
    simp [plain, sql, start, commit]
  | some fault =>
    obtain ⟨-, tried, received, texts, -, closes⟩ := load_stopped stopped rows
    have alive : fault ≠ .closed := fun h => by simp [closes h] at ends
    have listening : ¬ s.closed = true := fun closed => by
      rw [transaction_closed closed, closed] at ends
      cases ends
    rw [if_neg alive] at received
    refine ⟨_, received, ?_⟩
    rw [List.map_append, texts, triedSql, if_neg listening]
    split
    · refine .inr ⟨[Text.collapse copySql], "ROLLBACK", ?_, .inr rfl, between⟩
      simp [plain, rollback]
    · refine .inr ⟨[], "ROLLBACK", ?_, .inr rfl, by simp⟩
      simp [plain, rollback]

/-- What one operation sends on a connection that it does not end. -/
theorem run_sends {t : Log.Logged Server} (o : Operation)
    (ends : (o.run t).state.closed = false) :
    ∃ sent, (o.run t).state.received = t.state.received ++ sent ∧ o.Sends sent := by
  have listening : t.state.closed = false := by
    cases closed : t.state.closed with
    | false => rfl
    | true => rw [run_closed closed, closed] at ends; cases ends
  have open_ : ¬ t.state.closed = true := by simp [listening]
  rw [run_state] at ends ⊢
  cases o with
  | ensureSchema =>
    simp only [command_state, if_neg open_]
    obtain ⟨r, sql, received⟩ := sent_received t.state createSql id fun _ => rfl
    exact ⟨[r], received,
      bracketed_single sql createSql_starts (by simp) rfl (by simp [transactionWords])⟩
  | insert e =>
    cases row : eventRow e with
    | error flaw =>
      simp only [row]
      exact ⟨[], by simp, .inl (by simp)⟩
    | ok fields =>
      simp only [row, query_state, if_neg open_]
      obtain ⟨r, sql, received⟩ := sent_received t.state insertSql
        (fun r => { r with parameters := fields }) fun _ => rfl
      exact ⟨[r], received,
        bracketed_single sql insertSql_starts (by simp) rfl (by simp [transactionWords])⟩
  | recent limit =>
    simp only [query_state, if_neg open_]
    obtain ⟨r, sql, received⟩ := sent_received t.state recentSql
      (fun r => { r with parameters := [.bigint limit] }) fun _ => rfl
    exact ⟨[r], received,
      bracketed_single sql recentSql_starts (by simp) rfl (by simp [transactionWords])⟩
  | copy events =>
    cases mapped : events.mapM eventRow with
    | error flaw =>
      simp only [copy_flawed mapped]
      exact ⟨[], by simp, .inl (by simp)⟩
    | ok rows =>
      simp only [(copy_rows mapped t).2] at ends ⊢
      exact load_bracketed rows ends
  | execute sql =>
    simp only [query_state, if_neg open_]
    refine ⟨_, rfl, ?_⟩
    simp only [Operation.Sends, plain]
    split <;> rfl

/-- The operations one after another. -/
def runAll (operations : List Operation) (t : Log.Logged Server) : Log.Logged Server :=
  operations.foldl (fun t o => o.run t) t

theorem runAll_closed {t : Log.Logged Server} (closed : t.state.closed = true)
    (operations : List Operation) : (runAll operations t).state.closed = true := by
  induction operations generalizing t with
  | nil => exact closed
  | cons o operations ih => exact ih (by rw [run_closed closed, closed])

/-- What many operations send on a connection that none of them ends, operation by operation. -/
theorem runAll_sends (operations : List Operation) (t : Log.Logged Server)
    (ends : (runAll operations t).state.closed = false) :
    ∃ blocks, List.Forall₂ Operation.Sends operations blocks ∧
      (runAll operations t).state.received = t.state.received ++ blocks.flatten := by
  induction operations generalizing t with
  | nil => exact ⟨[], .nil, by simp [runAll]⟩
  | cons o operations ih =>
    have first : (o.run t).state.closed = false := by
      cases closed : (o.run t).state.closed with
      | false => rfl
      | true =>
        have := runAll_closed closed operations
        exact absurd (ends.symm.trans this) (by simp)
    obtain ⟨sent, received, sends⟩ := run_sends o first
    obtain ⟨blocks, all, later⟩ := ih (o.run t) ends
    refine ⟨sent :: blocks, .cons sends all, ?_⟩
    rw [List.flatten_cons, ← List.append_assoc, ← received]
    exact later

private theorem uncommitted {tried : List Received} (mild : ∀ r ∈ tried, r.sql ≠ "COMMIT" ∧ r.sql ≠ "ROLLBACK")
    (fault : StatementFault) :
    ∀ r ∈ tried ++ (if fault = .closed then [] else [plain "ROLLBACK"]), r.sql ≠ "COMMIT" := by
  intro r there
  rcases List.mem_append.mp there with early | last
  · exact (mild r early).1
  · split at last
    · cases last
    · obtain rfl := List.mem_singleton.mp last
      simp [plain, collapsed_transaction.2.2]

section Storable
variable {events : List Event} (storable : ∀ e ∈ events, e.Storable) {t : Log.Logged Server}
include storable

private theorem copy_committed (running : t.state.loadFault? = none) :
    ∃ copied rows, (copy events t).2.state.received =
        t.state.received ++ [plain "START TRANSACTION", copied, plain "COMMIT"] ∧
      copied.sql = Text.collapse copySql ∧ copied.copied = some rows ∧
      List.Forall₂ copied.Carries events rows ∧
      (copy events t).1 = match t.state.loadReplies.2.2.fault? .stream with
        | some fault => .error (.query fault)
        | none => .ok (t.state.loadReplies.2.1.count.getD events.length) := by
  obtain ⟨rows, mapped, made⟩ := rows_of_storable storable
  obtain ⟨answer, state⟩ := copy_rows mapped t
  obtain ⟨result, copied, sql, taken, received⟩ := load_committed running rows
  refine ⟨copied, rows, by rw [state, received], sql, taken,
    made.imp fun _ _ => carries_of_row sql, ?_⟩
  rw [answer, result, made.length_eq]
  cases t.state.loadReplies.2.2.fault? .stream <;> rfl

private theorem copy_stopped {fault : StatementFault} (stopped : t.state.loadFault? = some fault) :
    (copy events t).1 = .error (.query fault) ∧ ∃ tried,
      (copy events t).2.state.received =
        t.state.received ++ (tried ++ (if fault = .closed then [] else [plain "ROLLBACK"])) ∧
      tried.map Received.sql = t.state.triedSql ∧
      (∀ r ∈ tried, r.sql ≠ "COMMIT" ∧ r.sql ≠ "ROLLBACK") ∧
      ∀ r ∈ tried, ∀ rows, r.copied = some rows →
        List.Forall₂ r.Carries (events.take rows.length) rows := by
  obtain ⟨rows, mapped, made⟩ := rows_of_storable storable
  obtain ⟨answer, state⟩ := copy_rows mapped t
  obtain ⟨result, tried, received, texts, first, -⟩ := load_stopped stopped rows
  obtain ⟨-, notCommit, notRollback⟩ : _ ∧ _ ∧ _ := by
    simpa [transactionSql] using copySql_not_transaction
  have among : ∀ r ∈ tried, r.sql = "START TRANSACTION" ∨ r.sql = Text.collapse copySql := by
    intro r there
    have text := List.mem_map_of_mem (f := Received.sql) there
    rw [texts, triedSql] at text
    split at text
    · cases text
    · split at text <;> simp_all
  refine ⟨by rw [answer, result]; rfl, tried, by rw [state, received], texts, fun r there => ?_,
    fun r there copied taken => ?_⟩
  · rcases among r there with start | copies
    · simp [start]
    · simp [copies, notCommit, notRollback]
  · obtain ⟨sql, prefix_⟩ := first r there copied taken
    have carried := List.forall₂_take copied.length (made.imp fun _ _ => carries_of_row sql)
    rwa [← List.prefix_iff_eq_take.mp prefix_] at carried

/-- A load succeeds exactly if its commit is sent and does. -/
theorem copy_commits (t : Log.Logged Server) :
    ∃ sent, (copy events t).2.state.received = t.state.received ++ sent ∧
      ((∃ n, (copy events t).1 = .ok n) ↔
        plain "COMMIT" ∈ sent ∧ t.state.loadReplies.2.2.fault? .stream = none) := by
  cases stopped : t.state.loadFault? with
  | none =>
    obtain ⟨copied, rows, received, -, -, -, result⟩ := copy_committed storable stopped
    refine ⟨_, received, ?_⟩
    rw [result]
    cases t.state.loadReplies.2.2.fault? .stream <;> simp
  | some fault =>
    obtain ⟨result, tried, received, -, mild, -⟩ := copy_stopped storable stopped
    have absent : plain "COMMIT" ∉ _ :=
      fun there => uncommitted mild fault _ there collapsed_transaction.2.1
    exact ⟨_, received, by simp [result, absent]⟩

end Storable

/-- Bulk loads are atomic, whatever the server replies. Events that cannot all be stored are refused
before anything is sent. Else the commit is sent exactly if nothing stops the load before it, and then after
all rows, one for each event, were taken; what stops the load is the error, followed by one rollback if the
server still listens, and of the rows it has the first; and the count of the rows is returned exactly when
the commit is sent and succeeds. Over any operations that leave the server listening, every transaction is
closed within the operation that began it. -/
theorem bulk_load_atomic (t : Log.Logged Server) :
    (∀ events, (∃ e ∈ events, ¬ e.Storable) →
      (∃ e ∈ events, ∃ flaw, e.amount = .error flaw ∧
        (copy events t).1 = .error (.invalidEvent flaw)) ∧
      (copy events t).2.state = t.state) ∧
    (∀ events, (∀ e ∈ events, e.Storable) →
      ∃ sent, (copy events t).2.state.received = t.state.received ++ sent ∧
        (plain "COMMIT" ∈ sent ↔ t.state.loadFault? = none) ∧
        (∀ r ∈ sent, r.sql = "COMMIT" → t.state.loadFault? = none ∧ ∃ copied rows,
          sent = [plain "START TRANSACTION", copied, plain "COMMIT"] ∧
          copied.sql = Text.collapse copySql ∧ copied.copied = some rows ∧
          List.Forall₂ copied.Carries events rows) ∧
        (∀ fault, t.state.loadFault? = some fault →
          (copy events t).1 = .error (.query fault) ∧ ∃ tried,
            sent = tried ++ (if fault = .closed then [] else [plain "ROLLBACK"]) ∧
            tried.map Received.sql = t.state.triedSql ∧
            (∀ r ∈ tried, r.sql ≠ "COMMIT" ∧ r.sql ≠ "ROLLBACK") ∧
            ∀ r ∈ tried, ∀ rows, r.copied = some rows →
              List.Forall₂ r.Carries (events.take rows.length) rows) ∧
        (∀ fault, plain "COMMIT" ∈ sent → t.state.loadReplies.2.2.fault? .stream = some fault →
          (copy events t).1 = .error (.query fault)) ∧
        ∀ n, (copy events t).1 = .ok n ↔
          plain "COMMIT" ∈ sent ∧ t.state.loadReplies.2.2.fault? .stream = none ∧
            n = t.state.loadReplies.2.1.count.getD events.length) ∧
    ∀ operations, (runAll operations t).state.closed = false →
      ∃ blocks, List.Forall₂ Operation.Sends operations blocks ∧
        (runAll operations t).state.received = t.state.received ++ blocks.flatten := by
  refine ⟨fun events flawed => ?_, fun events storable => ?_, fun operations ends => runAll_sends operations t ends⟩
  · obtain ⟨e, there, flaw, reason, mapped⟩ := flaw_of_not_storable flawed
    rw [copy_flawed mapped]
    refine ⟨⟨e, there, flaw, ?_, rfl⟩, rfl⟩
    unfold eventRow at reason
    cases amount : e.amount with
    | error other => simpa [amount, bind, Except.bind] using reason
    | ok d => simp [amount, bind, Except.bind, pure, Except.pure] at reason
  · cases stopped : t.state.loadFault? with
    | none =>
      obtain ⟨copied, rows, received, sql, taken, carried, result⟩ := copy_committed storable stopped
      refine ⟨_, received, by simp, fun _ _ _ => ⟨rfl, copied, rows, rfl, sql, taken, carried⟩, by simp,
        fun fault _ failed => ?_, fun n => ?_⟩
      · rw [result, failed]
      · rw [result]
        cases t.state.loadReplies.2.2.fault? .stream <;> simp [eq_comm]
    | some fault =>
      obtain ⟨result, tried, received, texts, mild, first⟩ := copy_stopped storable stopped
      have unsent := uncommitted mild fault
      have absent : plain "COMMIT" ∉ tried ++ (if fault = .closed then [] else [plain "ROLLBACK"]) :=
        fun there => unsent _ there collapsed_transaction.2.1
      refine ⟨_, received, by simp [absent], fun r there commits => absurd commits (unsent r there), ?_,
        fun _ there => absurd there absent, fun n => ?_⟩
      · rintro _ ⟨rfl⟩
        exact ⟨result, tried, rfl, texts, mild, first⟩
      · simp [result, absent]

/-- A server that takes everything it is sent. -/
def quiet : Log.Logged Server := ⟨{ host := "localhost" }, []⟩

/-- A server that is lost when one row has been copied in. -/
def fragile : Log.Logged Server :=
  ⟨{ host := "localhost", replies := [{ word := some "COPY", failure := some (.cut 1) }] }, []⟩

/-- A page view, of which no two values are the same. -/
def pageView : Event where
  accountId := "a"
  clientId := "c"
  sessionId := "s"
  name := "page_view"
  value := .ofNat 12
  timestamp := .startOf2023
  pageLocation := "/cart"
  pageTitle := "Cart"
  pageReferrer := "/"
  userAgent := "b"
  screenResolution := "2x1"

private theorem pageView_storable : pageView.Storable :=
  ⟨by decide +kernel, ⟨false, 12, 0, by decide, by decide⟩, by decide +kernel⟩

theorem bulk_load_atomic_quiet :
    (copy [pageView] quiet).1 = .ok 1 ∧
      (∃ copied rows, (copy [pageView] quiet).2.state.received =
        [plain "START TRANSACTION", copied, plain "COMMIT"] ∧ copied.copied = some rows ∧ rows.length = 1) ∧
      (copy [pageView, { pageView with name := " " }] quiet).2.state = quiet.state ∧
      ((copy [pageView, pageView] fragile).1 = .error (.query .closed) ∧
        (copy [pageView, pageView] fragile).2.state.received.map Received.sql =
          ["START TRANSACTION", Text.collapse copySql]) ∧
      ∃ blocks, List.Forall₂ Operation.Sends [.copy [pageView], .execute "SELECT 1"] blocks ∧
        (runAll [.copy [pageView], .execute "SELECT 1"] quiet).state.received =
          quiet.state.received ++ blocks.flatten := by
  obtain ⟨flawed, storable, operations⟩ := bulk_load_atomic quiet
  obtain ⟨sent, received, reached, commits, -, -, counts⟩ :=
    storable [pageView] (by simpa using pageView_storable)
  have there : plain "COMMIT" ∈ sent := reached.mpr (by decide +kernel)
  refine ⟨(counts 1).mpr ⟨there, by decide +kernel, by decide +kernel⟩, ?_, (flawed _ ?_).2, ?_,
    operations _ ?_⟩
  · obtain ⟨-, copied, rows, rfl, -, taken, carried⟩ := commits _ there collapsed_transaction.2.1
    exact ⟨copied, rows, received, taken, carried.length_eq.symm⟩
  · refine ⟨{ pageView with name := " " }, by simp, fun storable => ?_⟩
    have valid : Event.validate { pageView with name := " " } = .error .unnamed := by decide +kernel
    rw [Event.Storable, valid] at storable
    cases storable.1
  · obtain ⟨-, storable, -⟩ := bulk_load_atomic fragile
    obtain ⟨sent, received, -, -, stops, -, -⟩ :=
      storable [pageView, pageView] (by simpa using pageView_storable)
    obtain ⟨failed, tried, rfl, texts, -, -⟩ := stops .closed (by decide +kernel)
    refine ⟨failed, ?_⟩
    rw [received, if_pos rfl, List.append_nil]
    exact texts
  · decide +kernel

end Server
end Clickstream.Database
