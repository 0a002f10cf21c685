import Clickstream.Proofs.Program.Lines

/-! Runs of the ingest program: what reaches the server for an input, how the program ends, and what
it says of its work. -/
namespace Clickstream.Program
open Log Database

/-- What comes before the first line: connecting, and creating the relation. -/
def prepare (vars : Variables) : Run Unit := do
  Run.connect ingestName vars
  Run.stored ingestName "Failed to create the events relation" Server.ensureSchema

/-- What is said after the last line. -/
def summary (tally : Tally) : Record :=
  ⟨.info, ingestName,
    "Inserted " ++ toString tally.inserted ++ " events, skipped " ++ toString tally.skipped⟩

/-- The program reaches its first line. -/
def Ready (vars : Variables) (server : Server) : Prop :=
  ((prepare vars).on ⟨server, []⟩).1 = .ok ()

/-- The server as the first line finds it. -/
def prepared (vars : Variables) (server : Server) : Server :=
  ((prepare vars).on ⟨server, []⟩).2.state

/-- What the program says at the level of information. -/
def announced (vars : Variables) (input : List UInt8) (server : Server) : List Record :=
  ((ingest vars input).on ⟨server, []⟩).2.log.filter fun r => r.level = .info

theorem ingest_eq (vars : Variables) (input : List UInt8) :
    ingest vars input = prepare vars >>= fun _ => ingestLines (lines input) {} >>= fun tally =>
      Run.note .info ingestName (summary tally).message >>= fun _ => pure "" := by
  simp only [ingest, prepare, bind_assoc, summary]

private theorem prepare_reserved (vars : Variables) : (prepare vars).Reserved :=
  (Run.Reserved.connect _ _).bind fun _ => .stored _ _ _

private theorem prepare_connected {vars : Variables} {server : Server}
    (connected : ((Run.connect ingestName vars).on ⟨server, []⟩).1 = .ok ()) :
    ((prepare vars).on ⟨server, []⟩).1 =
        ((Server.command createSql server).1.mapError .query).mapError .store ∧
      prepared vars server = (Server.command createSql server).2 := by
  have same := Run.connect_server ingestName vars ⟨server, []⟩
  have created := Run.stored_on ingestName "Failed to create the events relation"
    Server.ensureSchema ((Run.connect ingestName vars).on ⟨server, []⟩).2
  rw [same] at created
  unfold prepared prepare
  rw [Run.on_bind_ok connected]
  exact created

/-- The program reaches its first line exactly if it connects and the server runs the creation of the
relation. -/
theorem ready_iff {vars : Variables} {server : Server} :
    Ready vars server ↔
      ((Run.connect ingestName vars).on ⟨server, []⟩).1 = .ok () ∧ server.closed = false ∧
        (server.replyTo createSql).fault? .stream = none := by
  unfold Ready
  by_cases connected : ((Run.connect ingestName vars).on ⟨server, []⟩).1 = .ok ()
  · rw [(prepare_connected connected).1, mapError_eq_ok, mapError_eq_ok]
    cases listening : server.closed with
    | true => simp [Server.command_closed listening]
    | false =>
      rw [Server.command_open listening]
      cases (server.replyTo createSql).fault? .stream <;> simp [connected]
  · refine iff_of_false (fun ready => connected ?_) fun ready => connected ready.1
    unfold prepare at ready
    cases result : ((Run.connect ingestName vars).on ⟨server, []⟩).1 with
    | ok _ => rfl
    | error e =>
      rw [Run.on_bind_error result] at ready
      cases ready

section Ready
variable {vars : Variables} {server : Server} (ready : Ready vars server) {input : List UInt8}
  {final : Server}

include ready in
/-- By its first line the program has sent the creation of the relation, and nothing else. -/
theorem prepared_eq : prepared vars server = server.sent createSql id := by
  obtain ⟨connected, listening, -⟩ := ready_iff.mp ready
  rw [(prepare_connected connected).2, Server.command_open listening]

include ready in
theorem prepared_received :
    (prepared vars server).closed = false ∧
      (prepared vars server).received = server.received ++ [Server.plain createSql] := by
  obtain ⟨-, -, passed⟩ := ready_iff.mp ready
  rw [prepared_eq ready, Server.sent_closed _ _ _ .stream, passed]
  exact ⟨rfl, server.sent_plain _⟩

include ready in
private theorem ingest_on (input : List UInt8) :
    ∃ log, ((ingestLines (lines input) {}).on ⟨prepared vars server, log⟩).2.log.filter
        (fun r => r.level = .info) = [] ∧
      (ingest vars input).on ⟨server, []⟩ =
        (ingestLines (lines input) {} >>= fun tally =>
          Run.note .info ingestName (summary tally).message >>= fun _ => pure "").on
            ⟨prepared vars server, log⟩ := by
  obtain ⟨said, grown, quiet⟩ := prepare_reserved vars ⟨server, []⟩
  rw [List.nil_append] at grown
  refine ⟨said, ?_, ?_⟩
  · obtain ⟨more, grown', quiet'⟩ := ingestLines_reserved (lines input) {} ⟨prepared vars server, said⟩
    rw [grown', List.filter_eq_nil_iff]
    intro r there
    simpa using (List.mem_append.mp there).elim (quiet r) (quiet' r)
  · rw [ingest_eq, Run.on_bind_ok ready, prepared, ← grown]

include ready in
private theorem ingest_completes {tally : Tally}
    (completed : ∀ log, ((ingestLines (lines input) {}).on ⟨prepared vars server, log⟩).1 = .ok tally ∧
      ((ingestLines (lines input) {}).on ⟨prepared vars server, log⟩).2.state = final) :
    ((ingest vars input).outcome vars server).1.exitCode = 0 ∧
      ((ingest vars input).outcome vars server).2 = final ∧
      announced vars input server = [summary tally] := by
  obtain ⟨log, quiet, run⟩ := ingest_on ready input
  obtain ⟨result, state⟩ := completed log
  rw [Run.outcome_exitCode, Run.outcome_server, announced, run, Run.on_bind_ok result]
  simp only [Run.on_bind, Run.on_note, Run.on_pure, List.filter_append, quiet]
  exact ⟨trivial, state, rfl⟩

include ready in
private theorem ingest_aborts {e : ProgramError}
    (failed : ∀ log, ((ingestLines (lines input) {}).on ⟨prepared vars server, log⟩).1 = .error e ∧
      ((ingestLines (lines input) {}).on ⟨prepared vars server, log⟩).2.state = final) :
    ((ingest vars input).on ⟨server, []⟩).1 = .error e ∧
      ((ingest vars input).outcome vars server).1.exitCode = 1 ∧
      ((ingest vars input).outcome vars server).2 = final ∧
      announced vars input server = [] := by
  obtain ⟨log, quiet, run⟩ := ingest_on ready input
  obtain ⟨result, state⟩ := failed log
  rw [Run.outcome_exitCode, Run.outcome_server, announced, run, Run.on_bind_error result]
  exact ⟨rfl, rfl, state, quiet⟩

section Text
variable (text : none ∉ lines input)

include ready text in
private theorem ingest_accepted
    (accepted : (prepared vars server).Accepts (eventsOf (lines input))) :
    ((ingest vars input).outcome vars server).1.exitCode = 0 ∧
      ((ingest vars input).outcome vars server).2 =
        (prepared vars server).insertAll (eventsOf (lines input)) ∧
      announced vars input server =
        [summary ⟨(eventsOf (lines input)).length, skips (lines input)⟩] := by
  refine ingest_completes ready fun log => ?_
  rw [← eventsRead_eq text] at accepted ⊢
  obtain ⟨result, state⟩ := ingestLines_accepted (lines input) {} ⟨prepared vars server, log⟩ accepted
  rw [result, state, if_neg text]
  simp

include ready text in
private theorem ingest_failed {k : Nat} {fault : StoreError}
    (failed : (prepared vars server).FailsAt (eventsOf (lines input)) k fault) :
    ((ingest vars input).outcome vars server).1.exitCode = 1 ∧
      ((ingest vars input).outcome vars server).2 =
        (prepared vars server).insertAll ((eventsOf (lines input)).take (k + 1)) ∧
      announced vars input server = [] := by
  rw [← eventsRead_eq text] at failed ⊢
  exact (ingest_aborts ready fun log => ingestLines_failed (lines input) {} ⟨_, log⟩ failed).2

end Text
end Ready

/-- Every line of a text is accounted for. The INSERTs that are sent are those of the lines with an
event, in order, up to the first that the server does not answer by an identifier. If there is none
the program ends well, and says how many were sent and how many lines that are not blank were
skipped. Lines without an event, wherever they stand, make no difference to what is sent. -/
theorem ingest_accounts {vars : Variables} {server : Server} (ready : Ready vars server)
    (text : String) :
    let texts := Text.trimmedLines text
    let events := texts.filterMap eventOf?
    let start := prepared vars server
    let ended := (ingest vars (Text.utf8 text)).outcome vars server
    start.received = server.received ++ [Server.plain createSql] ∧
      (start.Accepts events ∨ ∃ k fault, start.FailsAt events k fault) ∧
      (start.Accepts events →
        (∃ sent, List.Forall₂ Inserts events sent ∧ ended.2.received = start.received ++ sent) ∧
        ended.1.exitCode = 0 ∧
        ∃ skipped, events.length + skipped = texts.countP (· ≠ "") ∧
          announced vars (Text.utf8 text) server = [summary ⟨events.length, skipped⟩]) ∧
      (∀ k fault, start.FailsAt events k fault →
        (∃ e sent last, events[k]? = some e ∧ List.Forall₂ Inserts (events.take k) sent ∧
          (start.insertAll (events.take k)).InsertsOrRefuses e last ∧
          ended.2.received = start.received ++ (sent ++ [last])) ∧
        ended.1.exitCode = 1 ∧ announced vars (Text.utf8 text) server = []) ∧
      ∀ other, (Text.trimmedLines other).filter HoldsEvent = texts.filter HoldsEvent →
        ((ingest vars (Text.utf8 other)).outcome vars server).2.received = ended.2.received := by
  intro texts events start ended
  obtain ⟨listening, received⟩ := prepared_received ready
  have textual (s : String) : none ∉ lines (Text.utf8 s) := by simp [lines_utf8]
  have read (s : String) : eventsOf (lines (Text.utf8 s)) =
      (Text.trimmedLines s).filterMap eventOf? := by rw [lines_utf8, eventsOf_texts]
  have accepting (s : String) := ingest_accepted ready (textual s)
  have failing (s : String) := @ingest_failed _ _ ready _ (textual s)
  simp only [read] at accepting failing
  refine ⟨received, start.accepts_or_failsAt events, fun accepted => ?_, fun k fault failed => ?_,
    fun other same => ?_⟩
  · obtain ⟨exitCode, final, said⟩ := accepting text accepted
    obtain ⟨-, sent, inserts, grown⟩ := Server.insertAll_accepted accepted listening
    refine ⟨⟨sent, inserts, ?_⟩, exitCode, _, events_add_skips texts, ?_⟩
    · rw [← grown, ← final]
    · rw [said, lines_utf8]
  · obtain ⟨exitCode, final, said⟩ := failing text failed
    have storable : ∀ e ∈ events, e.Storable := by
      intro e there
      obtain ⟨line, -, event⟩ := List.mem_filterMap.mp there
      exact (eventOf?_eq_some.mp event).2.2
    obtain ⟨e, sent, last, here, inserts, refuses, grown⟩ :=
      Server.insertAll_failed failed storable listening
    refine ⟨⟨e, sent, last, here, inserts, refuses, ?_⟩, exitCode, said⟩
    rw [← grown, ← final]
  · have events_eq : (Text.trimmedLines other).filterMap eventOf? = events := by
      rw [← events_holding, same, events_holding]
    rcases start.accepts_or_failsAt events with accepted | ⟨k, fault, failed⟩
    · rw [(accepting text accepted).2.1, (accepting other (events_eq ▸ accepted)).2.1, events_eq]
    · rw [(failing text failed).2.1, (failing other (events_eq ▸ failed)).2.1, events_eq]

/-- The reply to an INSERT that gives the identifier 1. -/
def numbered : Database.Reply where
  word := some "INSERT"
  columns := [⟨"id", "int8"⟩]
  rows := [[some [0, 0, 0, 0, 0, 0, 0, 1]]]

/-- A server that takes one event. -/
def answering : Server := { host := "localhost", replies := [numbered] }

/-- A line with a page view. -/
def pageViewLine : String :=
  "[\"a\", \"c\", \"s\", \"page_view\", 12, \"2023-01-01T00:00:00Z\", " ++
  "\"/cart\", \"Cart\", \"/\", \"b\", \"2x1\"]"

/-- A blank line and a malformed one before a line with an event. -/
def mixedText : String := "\n[\n" ++ pageViewLine

private theorem samples_read :
    (eventOf? pageViewLine = some Server.pageView ∧ eventOf? "[" = none ∧ pageViewLine ≠ "") ∧
      (Text.trimmedLines mixedText = ["", "[", pageViewLine] ∧
        lines (255 :: 10 :: Text.utf8 pageViewLine) = [none, some pageViewLine]) ∧
      numbered.identifier = .ok 1 ∧
      ((Run.connect ingestName []).on ⟨answering, []⟩).1 = .ok () := by
  decide +kernel

private theorem answering_creates : Server.takeReply (Server.firstWord createSql)
    answering.replies = ({}, answering.replies) := by
  rw [Server.firstWord_create]
  simp [Server.takeReply, Server.suits, answering, numbered]

private theorem answering_ready : Ready [] answering := by
  refine ready_iff.mpr ⟨samples_read.2.2.2, rfl, ?_⟩
  rw [Server.replyTo, answering_creates]
  rfl

private theorem answering_replies : (prepared [] answering).replyTo insertSql = numbered := by
  have left : (prepared [] answering).replies = answering.replies := by
    rw [prepared_eq answering_ready, Server.sent_replies, answering_creates]
  rw [Server.replyTo, left, Server.firstWord_insert]
  simp [Server.takeReply, Server.suits, answering, numbered]

private theorem answering_accepts : (prepared [] answering).Accepts [Server.pageView] := by
  have storable : Server.pageView.Storable := (eventOf?_eq_some.mp samples_read.1.1).2.2
  have listening := (prepared_received answering_ready).1
  rw [Server.accepts_cons]
  refine ⟨⟨1, Server.insert_eq_ok.mpr ⟨storable, listening, ?_⟩⟩,
    by simp [Server.Accepts, Server.answers]⟩
  rw [answering_replies]
  exact ⟨rfl, samples_read.2.2.1⟩

theorem ingest_accounts_mixed :
    ((ingest [] (Text.utf8 mixedText)).outcome [] answering).1.exitCode = 0 ∧
      (∃ r, Inserts Server.pageView r ∧
        ((ingest [] (Text.utf8 mixedText)).outcome [] answering).2.received =
          [Server.plain createSql, r]) ∧
      announced [] (Text.utf8 mixedText) answering = [summary ⟨1, 1⟩] := by
  obtain ⟨⟨event, malformed, solid⟩, ⟨texts, -⟩, -⟩ := samples_read
  have blank : eventOf? "" = none := rfl
  have events : ["", "[", pageViewLine].filterMap eventOf? = [Server.pageView] := by
    simp [blank, malformed, event]
  obtain ⟨received, -, accounts, -, -⟩ := ingest_accounts answering_ready mixedText
  rw [texts, events] at accounts
  obtain ⟨⟨sent, inserts, grown⟩, exitCode, skipped, total, said⟩ := accounts answering_accepts
  obtain ⟨r, _, here, ends, rfl⟩ := List.forall₂_cons_left_iff.mp inserts
  obtain rfl := List.forall₂_nil_left_iff.mp ends
  have one : skipped = 1 := by simpa [solid, Nat.add_comm 1] using total
  refine ⟨exitCode, ⟨r, here, ?_⟩, ?_⟩
  · rw [grown, received]
    rfl
  · rw [said, one]
    rfl

/-- A line that is no text ends the program: no line after it is stored. No other line does, if the
server takes every event. -/
theorem ingest_ends_at_no_text {vars : Variables} {server : Server} (ready : Ready vars server)
    (input : List UInt8) (accepted : (prepared vars server).Accepts (eventsOf (lines input))) :
    let start := prepared vars server
    let ended := (ingest vars input).outcome vars server
    (none ∉ lines input →
      (∃ sent, List.Forall₂ Inserts (eventsOf (lines input)) sent ∧
        ended.2.received = start.received ++ sent) ∧
      ended.1.exitCode = 0) ∧
    ∀ before after, lines input = before ++ none :: after → none ∉ before →
      (∃ sent, List.Forall₂ Inserts (eventsOf before) sent ∧
        ended.2.received = start.received ++ sent) ∧
      ((ingest vars input).on ⟨server, []⟩).1 = .error .invalidText ∧
      ended.1.exitCode = 1 ∧ announced vars input server = [] := by
  intro start ended
  obtain ⟨listening, -⟩ := prepared_received ready
  refine ⟨fun text => ?_, fun before after split text => ?_⟩
  · obtain ⟨exitCode, final, -⟩ := ingest_accepted ready text accepted
    obtain ⟨-, sent, inserts, grown⟩ := Server.insertAll_accepted accepted listening
    exact ⟨⟨sent, inserts, by rw [← grown, ← final]⟩, exitCode⟩
  · have parts : eventsOf (lines input) = eventsOf before ++ eventsOf after := by
      simp [split, eventsOf]
    have reached : eventsRead (lines input) = eventsOf before := by
      rw [split, eventsRead_append text]
    have taken : start.Accepts (eventsOf before) := Server.Accepts.of_append (parts ▸ accepted)
    have cut : none ∈ lines input := by simp [split]
    have stopped (log : List Record) :=
      ingestLines_accepted (lines input) {} ⟨start, log⟩ (reached ▸ taken)
    simp only [if_pos cut] at stopped
    obtain ⟨result, exitCode, final, said⟩ := ingest_aborts ready stopped
    obtain ⟨-, sent, inserts, grown⟩ := Server.insertAll_accepted taken listening
    refine ⟨⟨sent, inserts, ?_⟩, result, exitCode, said⟩
    rw [← grown, ← reached, ← final]

/-- A line that is no text keeps the event on the line after it from a server that would take it. -/
theorem ingest_ends_at_no_text_first :
    (prepared [] answering).Accepts [Server.pageView] ∧
      eventOf? pageViewLine = some Server.pageView ∧
      lines (255 :: 10 :: Text.utf8 pageViewLine) = [none, some pageViewLine] ∧
      ((ingest [] (255 :: 10 :: Text.utf8 pageViewLine)).outcome [] answering).1.exitCode = 1 ∧
      ((ingest [] (255 :: 10 :: Text.utf8 pageViewLine)).outcome [] answering).2.received =
        [Server.plain createSql] := by
  obtain ⟨⟨event, -, -⟩, ⟨-, cut⟩, -⟩ := samples_read
  have accepted : (prepared [] answering).Accepts
      (eventsOf (lines (255 :: 10 :: Text.utf8 pageViewLine))) := by
    rw [cut]
    simpa [eventsOf, event] using answering_accepts
  obtain ⟨-, ends⟩ := ingest_ends_at_no_text answering_ready _ accepted
  obtain ⟨⟨sent, inserts, grown⟩, -, exitCode, -⟩ := ends [] [some pageViewLine] cut (by simp)
  obtain rfl := List.forall₂_nil_left_iff.mp inserts
  refine ⟨answering_accepts, event, cut, exitCode, ?_⟩
  rw [grown, (prepared_received answering_ready).2]
  rfl

end Clickstream.Program
