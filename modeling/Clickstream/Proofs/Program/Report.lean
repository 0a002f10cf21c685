import Clickstream.Program.Report
import Clickstream.Proofs.Catalog.Validation
import Clickstream.Proofs.Database.Listing
import Clickstream.Proofs.Json.Writing
import Clickstream.Proofs.Program.Run
import Clickstream.Proofs.Report.Double
import Clickstream.Proofs.Report.Published

/-! What the report program sends to a server and prints. Its variables choose among the entries of the
standard catalog, a limit and a shape; none of their texts gets into a statement. -/
namespace Clickstream.Program
open Database Log

/-- What a report is asked for. -/
structure Asked where
  dimensions : List Entry
  measures : List Entry
  /-- Zero where there is no limit. -/
  limit : Nat
  shape : OutputShape

/-- The variables ask for this: all of them can be read, and the standard catalog has all the keys. -/
structure Asks (vars : Variables) (a : Asked) : Prop where
  dimensions : ∃ keys, Config.textSetting vars "REPORT_DIMENSIONS" "" = .ok keys ∧
    Catalog.standard.resolve .dimension keys = .ok a.dimensions
  measures : ∃ keys, Config.textSetting vars "REPORT_MEASURES" "" = .ok keys ∧
    Catalog.standard.resolve .measure keys = .ok a.measures
  limit : Config.setting vars "REPORT_LIMIT" 0 (whole? 4294967295) = .ok a.limit
  shape : Config.setting vars "REPORT_SHAPE" (.report .table) OutputShape.read? = .ok a.shape

/-- The expressions of the standard catalog are fit to be spliced into statements. -/
theorem standard_valid : Catalog.standard.validate = .ok () := by decide +kernel

/-- Only entries of the catalog are resolved. -/
theorem mem_of_resolve {c : Catalog} {kind : Kind} {keys : String} {found : List Entry}
    (resolved : c.resolve kind keys = .ok found) : ∀ e ∈ found, e ∈ c.entries kind := by
  intro e there
  have each : List.Forall₂ (fun key e => e ∈ c.entries kind) (Catalog.splitKeys keys) found :=
    (mapM_ok.mp resolved).imp fun key e looked => (Catalog.mem_of_lookup looked).1
  obtain ⟨i, hi, rfl⟩ := List.getElem_of_mem there
  exact (List.forall₂_iff_get.mp each).2 i (by rw [each.length_eq]; exact hi) hi

/-- A whole number is read only up to its bound. -/
theorem whole?_le {bound n : Nat} {s : String} (read : whole? bound s = some n) : n ≤ bound := by
  unfold whole? at read
  simp only [Option.bind_eq_bind] at read
  split at read
  · cases read
  · obtain ⟨m, -, inside⟩ := Option.bind_eq_some_iff.mp read
    rw [Option.ite_none_right_eq_some] at inside
    exact Option.some.inj inside.2 ▸ inside.1

namespace Asked
variable (a : Asked)

def query : Query where
  dimensions := a.dimensions
  measures := a.measures
  limit := if a.limit = 0 then none else some a.limit

/-- How many of the newest events are wanted. -/
def recentLimit : Nat := if a.limit = 0 then 10 else a.limit

/-- The statement for this, if it is not refused. -/
def sql : String :=
  match a.shape with
  | .report _ => a.query.statement
  | .recent => recentSql

/-- What is recorded of the statement: a query has no parameters, and the listing of the newest
events has its limit, unless the server refuses the statement before its parameters are sent. -/
def record (s : Server) : Received where
  sql := Text.collapse a.sql
  parameters :=
    match a.shape with
    | .report _ => []
    | .recent => if (s.replyTo recentSql).refuses then [] else [.bigint a.recentLimit]

/-- Why there is no statement, if there is none: this is no query, or no chart can be made of it. -/
def refusal? : Option QueryError :=
  match a.shape with
  | .report shape => Report.refusal? shape a.query
  | .recent => none

/-- The document that a reply is printed as: it is made of all its rows. Of an event it has the identifier, the
name and the value. -/
inductive Document (reply : Database.Reply) : Json.Tree → Prop
  | report {shape : ReportShape} {tree : Json.Tree} (wanted : a.shape = .report shape)
    (published : Report.Publishes a.query reply shape tree) : Document reply tree
  | recent {events : List (Int × String × Decimal)} (wanted : a.shape = .recent)
    (whole : List.Forall₂ (fun wire e => Shows reply.columns wire e.1 e.2.1 e.2.2) reply.rows events) :
    Document reply (.list (events.map fun e => .record
      [("id", .integer e.1), ("name", .text e.2.1), ("value", .number e.2.2.toBinary64)]))

/-- The server answers the statement for this with a document: it listens, does not fail the statement
or the rows, and all the rows are in the document. -/
structure Answered (s : Server) (tree : Json.Tree) : Prop where
  accepted : a.refusal? = none
  listens : s.closed = false
  runs : (s.replyTo a.sql).refuses = false
  ends : (s.replyTo a.sql).ending? .stream = none
  document : a.Document (s.replyTo a.sql) tree

/-- The answer to what is asked for: the document, or why there is none. -/
def answer (s : Server) : Except ProgramError Json.Tree :=
  match a.shape with
  | .report shape => ((Report.answer shape a.query s).mapError .report).map Report.toTree
  | .recent =>
    ((Server.recent a.recentLimit s).1.mapError .store).map fun events =>
      .list (events.map Event.Summary.toTree)

/-- The server after it was asked. -/
def after (s : Server) : Server :=
  match a.shape with
  | .report shape => Report.after shape a.query s
  | .recent => (Server.recent a.recentLimit s).2

private theorem document_ends {config : ReportConfig} (limit : config.limit = a.limit)
    (shape : config.shape = a.shape) (s : Server) :
    Run.Ends (reportDocument config a.query) s (a.answer s) (a.after s) := by
  unfold reportDocument answer after
  rw [shape]
  cases a.shape with
  | report shape =>
    simp only
    refine (Run.Ends.lift (Report.run_answers shape a.query s)).bind ?_
    cases Report.answer shape a.query s with
    | error e => exact .throw _ _
    | ok r => exact .pure _ _
  | recent =>
    have same : config.recentLimit = a.recentLimit := by
      rw [ReportConfig.recentLimit, recentLimit, limit]
    rw [same]
    have listed := Run.Ends.stored reportName "Failed to list recent events"
      (Server.recent a.recentLimit) s
    generalize Server.recent a.recentLimit s = outcome at listed ⊢
    obtain ⟨e | events, s'⟩ := outcome
    · exact listed.bind_error _
    · exact listed.bind (.pure _ _)

private theorem recent_ok {s : Server} {limit : Nat} {events : List Event.Summary} :
    (Server.recent limit s).1 = .ok events ↔
      s.closed = false ∧ (s.replyTo recentSql).refuses = false ∧
        (s.replyTo recentSql).ending? .stream = none ∧
        List.Forall₂ (fun wire event => Server.summary (s.replyTo recentSql).columns wire = .ok event)
          (s.replyTo recentSql).rows events := by
  have answer : (Server.recent limit s).1 = ((do
      let reply ← (Server.query recentSql [.bigint limit] s).1
      (← reply.allRows).mapM (Server.summary reply.columns)).mapError .query) := rfl
  simp only [answer, mapError_eq_ok, bind_eq_ok, Server.query_ok, Database.Reply.allRows_ok, mapM_ok]
  constructor
  · rintro ⟨_, ⟨listens, runs, rfl⟩, _, ⟨ends, rfl⟩, each⟩
    exact ⟨listens, runs, ends, each⟩
  · rintro ⟨listens, runs, ends, each⟩
    exact ⟨_, ⟨listens, runs, rfl⟩, _, ⟨ends, rfl⟩, each⟩

private theorem recent_tree {columns : List Column} {rows : List (List WireCell)} {tree : Json.Tree} :
    (∃ listed, List.Forall₂ (fun wire event => Server.summary columns wire = .ok event) rows listed ∧
      Json.Tree.list (listed.map Event.Summary.toTree) = tree) ↔
    ∃ events : List (Int × String × Decimal),
      List.Forall₂ (fun wire e => Shows columns wire e.1 e.2.1 e.2.2) rows events ∧
        .list (events.map fun e => .record
          [("id", .integer e.1), ("name", .text e.2.1), ("value", .number e.2.2.toBinary64)]) = tree := by
  constructor
  · rintro ⟨listed, each, rfl⟩
    induction each with
    | nil => exact ⟨[], .nil, rfl⟩
    | @cons wire event _ listed read _ ih =>
      obtain ⟨d, shows, value⟩ := summary_ok.mp read
      obtain ⟨events, others, same⟩ := ih
      refine ⟨(event.id, event.name, d) :: events, .cons shows others, ?_⟩
      rw [List.map_cons, List.map_cons, Json.Tree.list.inj same, Event.Summary.toTree, value]
  · rintro ⟨events, each, rfl⟩
    refine ⟨events.map fun e => ⟨e.1, e.2.1, e.2.2.toBinary64⟩, ?_, ?_⟩
    · exact List.forall₂_map_right_iff.mpr (each.imp fun _ _ shows => summary_ok.mpr ⟨_, shows, rfl⟩)
    · rw [List.map_map]
      rfl

/-- There is an answer exactly if the server gives one. -/
theorem answer_ok {s : Server} {tree : Json.Tree} : a.answer s = .ok tree ↔ a.Answered s tree := by
  have parts : a.Answered s tree ↔ a.refusal? = none ∧ s.closed = false ∧
      (s.replyTo a.sql).refuses = false ∧ (s.replyTo a.sql).ending? .stream = none ∧
      a.Document (s.replyTo a.sql) tree :=
    ⟨fun ⟨accepted, listens, runs, ends, document⟩ => ⟨accepted, listens, runs, ends, document⟩,
      fun ⟨accepted, listens, runs, ends, document⟩ => ⟨accepted, listens, runs, ends, document⟩⟩
  rw [parts]
  unfold answer refusal? sql
  cases wanted : a.shape with
  | report shape =>
    have document : a.Document (s.replyTo a.query.statement) tree ↔
        Report.Publishes a.query (s.replyTo a.query.statement) shape tree := by
      constructor
      · rintro (⟨shape, published⟩ | ⟨recent, -⟩)
        · obtain rfl := OutputShape.report.inj (wanted.symm.trans shape)
          exact published
        · simp [wanted] at recent
      · exact .report wanted
    simp only [document, map_eq_ok, mapError_eq_ok, Report.answer_ok, ← Report.ofCursor_published]
    constructor
    · rintro ⟨r, ⟨accepted, rows, executed, made⟩, rfl⟩
      obtain ⟨listens, runs, rfl⟩ := Server.execute_ok.mp executed
      exact ⟨accepted, listens, runs, r, made, rfl⟩
    · rintro ⟨accepted, listens, runs, r, made, rfl⟩
      exact ⟨r, ⟨accepted, _, Server.execute_ok.mpr ⟨listens, runs, rfl⟩, made⟩, rfl⟩
  | recent =>
    have document : a.Document (s.replyTo recentSql) tree ↔ ∃ listed,
        List.Forall₂ (fun wire event => Server.summary (s.replyTo recentSql).columns wire = .ok event)
          (s.replyTo recentSql).rows listed ∧ Json.Tree.list (listed.map Event.Summary.toTree) = tree := by
      rw [recent_tree]
      constructor
      · rintro (⟨report, -⟩ | ⟨-, whole⟩)
        · simp [wanted] at report
        · exact ⟨_, whole, rfl⟩
      · rintro ⟨events, whole, rfl⟩
        exact .recent wanted whole
    simp only [document, map_eq_ok, mapError_eq_ok, recent_ok, true_and]
    constructor
    · rintro ⟨events, ⟨listens, runs, ends, whole⟩, rfl⟩
      exact ⟨listens, runs, ends, events, whole, rfl⟩
    · rintro ⟨listens, runs, ends, events, whole, rfl⟩
      exact ⟨events, ⟨listens, runs, ends, whole⟩, rfl⟩

/-- At most one statement is sent. -/
theorem after_received (s : Server) :
    (a.after s).received =
      s.received ++ (if s.closed ∨ a.refusal?.isSome then [] else [a.record s]) := by
  have asked (sql : String) (parameters : List Field) :
      (Server.query sql parameters s).2.received = s.received ++ if s.closed then [] else
        [{ sql := Text.collapse sql
           parameters := if (s.replyTo sql).refuses then [] else parameters }] := by
    rw [Server.query_state]
    cases s.closed
    · exact s.sent_parameters sql parameters
    · simp
  unfold after refusal? record sql
  cases a.shape with
  | report shape =>
    cases refused : Report.refusal? shape a.query with
    | some e => simp [Report.after, refused]
    | none =>
      have executed : (Server.execute a.query.statement s).2 =
          (Server.query a.query.statement [] s).2 := rfl
      have state : Report.after shape a.query s = (Server.query a.query.statement [] s).2 := by
        rw [← executed]
        simp only [Report.after, refused, EventStore.execute]
        generalize Server.execute a.query.statement s = outcome
        obtain ⟨_ | _, s'⟩ := outcome <;> rfl
      simp only [state, asked, refused, ite_self, Option.isSome_none, Bool.false_eq_true, or_false]
  | recent =>
    have state : (Server.recent a.recentLimit s).2 =
        (Server.query recentSql [.bigint a.recentLimit] s).2 := rfl
    simp only [state, asked, Option.isSome_none, Bool.false_eq_true, or_false]

end Asked

theorem asks_iff {vars : Variables} {a : Asked} :
    Asks vars a ↔ ∃ config, ReportConfig.read vars = .ok config ∧
      Catalog.standard.resolve .dimension config.dimensions = .ok a.dimensions ∧
      Catalog.standard.resolve .measure config.measures = .ok a.measures ∧
      config.limit = a.limit ∧ config.shape = a.shape := by
  unfold ReportConfig.read
  constructor
  · rintro ⟨⟨dimensions, found, resolved⟩, ⟨measures, found', resolved'⟩, limit, shape⟩
    refine ⟨⟨dimensions, measures, a.limit, a.shape⟩, ?_, resolved, resolved', rfl, rfl⟩
    simp only [found, found', limit, shape]
    rfl
  · rintro ⟨config, read, resolved, resolved', limit, shape⟩
    obtain ⟨dimensions, found, read⟩ := bind_eq_ok.mp read
    obtain ⟨measures, found', read⟩ := bind_eq_ok.mp read
    obtain ⟨n, limited, read⟩ := bind_eq_ok.mp read
    obtain ⟨wanted, shaped, read⟩ := bind_eq_ok.mp read
    obtain rfl := Except.ok.inj read
    exact ⟨⟨_, found, resolved⟩, ⟨_, found', resolved'⟩, limit ▸ limited, shape ▸ shaped⟩

private theorem query_ofSettings (a : Asked) :
    Query.ofSettings [.dimensions a.dimensions, .measures a.measures, .limit a.limit] = a.query := rfl

/-- A report is run as it is asked for once the server lets the program in; else nothing is sent. -/
theorem report_ends (vars : Variables) (s : Server) :
    (∀ a, Asks vars a → Run.Connects vars s →
      Run.Ends (report vars) s ((a.answer s).map fun tree => tree.pretty ++ "\n") (a.after s)) ∧
    ((¬ ∃ a, Asks vars a) ∨ ¬ Run.Connects vars s → ∃ e, Run.Ends (report vars) s (.error e) s) := by
  obtain ⟨connected, connects, passes⟩ := Run.connect_ends reportName vars s
  have fit : Run.Ends (Run.required reportName "Invalid catalog"
      (return Catalog.standard.validate.mapError .catalog)) s (.ok ()) s := by
    rw [standard_valid]
    exact .settled _ _ _ s
  have loaded : Run.Ends (Run.required reportName "Failed to initialize report config" do
      return (← ReportConfig.load vars).mapError .config) s
      ((ReportConfig.read vars).mapError .config) s := .load _ _ vars s
  have resolved (complaint : String) {kind : Kind} {keys : String}
      {found : Except CatalogError (List Entry)} (known : Catalog.standard.resolve kind keys = found) :
      Run.Ends (Run.required reportName complaint
        (return (Catalog.standard.resolve kind keys).mapError .catalog)) s (found.mapError .catalog) s := by
    rw [← known]
    exact .settled _ _ _ s
  unfold report
  simp only
  constructor
  · rintro a asks lets
    obtain ⟨config, read, dimensions, measures, limit, shape⟩ := asks_iff.mp asks
    rw [read] at loaded
    rw [passes.mpr lets] at connects
    refine fit.bind (loaded.bind ((resolved _ dimensions).bind ((resolved _ measures).bind
      (connects.bind ?_))))
    rw [limit, query_ofSettings]
    exact (a.document_ends limit shape s).map _
  · intro stopped
    cases read : ReportConfig.read vars with
    | error e =>
      rw [read] at loaded
      exact ⟨_, fit.bind (loaded.bind_error _)⟩
    | ok config =>
      rw [read] at loaded
      cases dimensions : Catalog.standard.resolve .dimension config.dimensions with
      | error e => exact ⟨_, fit.bind (loaded.bind ((resolved _ dimensions).bind_error _))⟩
      | ok ds =>
        cases measures : Catalog.standard.resolve .measure config.measures with
        | error e =>
          exact ⟨_, fit.bind (loaded.bind ((resolved _ dimensions).bind
            ((resolved _ measures).bind_error _)))⟩
        | ok ms =>
          have asks : Asks vars ⟨ds, ms, config.limit, config.shape⟩ :=
            asks_iff.mpr ⟨config, read, dimensions, measures, rfl, rfl⟩
          cases connected with
          | ok _ =>
            rcases stopped with none_ | apart
            · exact absurd ⟨_, asks⟩ none_
            · exact absurd (passes.mp rfl) apart
          | error e =>
            exact ⟨_, fit.bind (loaded.bind ((resolved _ dimensions).bind
              ((resolved _ measures).bind (connects.bind_error _))))⟩

/-- What is asked for is made of entries of the standard catalog, and the limit is a number of 32 bits. -/
theorem Asks.within {vars : Variables} {a : Asked} (asks : Asks vars a) :
    (∀ e ∈ a.dimensions, e ∈ Catalog.standard.dimensions) ∧
      (∀ e ∈ a.measures, e ∈ Catalog.standard.measures) ∧ a.limit ≤ 4294967295 := by
  obtain ⟨⟨_, -, resolved⟩, ⟨_, -, resolved'⟩, limit, -⟩ := asks
  refine ⟨mem_of_resolve resolved, mem_of_resolve resolved', ?_⟩
  unfold Config.setting at limit
  split at limit
  · exact Except.ok.inj limit ▸ Nat.zero_le _
  · split at limit
    · rename_i read
      exact Except.ok.inj limit ▸ whole?_le read
    · cases limit

private theorem compile_accepted {a : Asked} {shape : ReportShape} (wanted : a.shape = .report shape)
    (accepted : a.refusal? = none) : a.query.compile = .ok ⟨a.query, a.sql⟩ := by
  simp only [Asked.refusal?, wanted] at accepted
  simp only [Query.compile, Asked.sql, wanted, Report.asks_of_accepted accepted, Bool.false_eq_true,
    ↓reduceIte]

section Ready
variable {vars : Variables} {server : Server} {a : Asked} (asks : Asks vars a)
  (lets : Run.Connects vars server)
include asks lets

private theorem report_left : ((report vars).outcome vars server).2 = a.after server :=
  (((report_ends vars server).1 a asks lets).outcome vars).2.2

private theorem report_answered {tree : Json.Tree} (answered : a.Answered server tree) :
    ((report vars).outcome vars server).1.exitCode = 0 ∧
      ((report vars).outcome vars server).1.output = tree.pretty ++ "\n" := by
  obtain ⟨output, exitCode, -⟩ := ((report_ends vars server).1 a asks lets).outcome vars
  rw [a.answer_ok.mpr answered] at output exitCode
  exact ⟨exitCode, output⟩

private theorem report_unanswered {e : ProgramError} (failed : a.answer server = .error e) :
    ((report vars).outcome vars server).1.exitCode = 1 ∧
      ((report vars).outcome vars server).1.output = "" := by
  obtain ⟨output, exitCode, -⟩ := ((report_ends vars server).1 a asks lets).outcome vars
  rw [failed] at output exitCode
  exact ⟨exitCode, output⟩

private theorem report_succeeds (succeeds : ((report vars).outcome vars server).1.exitCode = 0) :
    ∃ tree, a.Answered server tree ∧
      ((report vars).outcome vars server).1.output = tree.pretty ++ "\n" := by
  cases answer : a.answer server with
  | error e => simp [report_unanswered asks lets answer] at succeeds
  | ok tree =>
    have answered := a.answer_ok.mp answer
    exact ⟨tree, answered, (report_answered asks lets answered).2⟩

private theorem report_prints_iff : ((report vars).outcome vars server).1.output ≠ "" ↔
    ((report vars).outcome vars server).1.exitCode = 0 := by
  cases answer : a.answer server with
  | error e => simp [report_unanswered asks lets answer]
  | ok tree => simp [report_answered asks lets (a.answer_ok.mp answer)]

private theorem report_sends :
    ∃ sent, ((report vars).outcome vars server).2.received = server.received ++ sent ∧
      sent.length ≤ 1 ∧ ∀ r ∈ sent, r = a.record server ∧ a.refusal? = none := by
  rw [report_left asks lets, a.after_received server]
  refine ⟨_, rfl, by split <;> simp, fun r there => ?_⟩
  split at there
  · cases there
  · rename_i sends
    exact ⟨List.mem_singleton.mp there, by simpa using (not_or.mp sends).2⟩

end Ready

/-- No text of a variable gets into a statement. A report sends at most one statement, and none if a
variable cannot be read, a key is not in the catalog or the server does not let it in. What it sends
is the listing of the newest events or the compiled query of entries of the standard catalog, and is the
same for all variables that ask for the same. It prints exactly if it succeeds, which it does exactly if
the server answers, and then the one document of the whole answer, which renders the answer and nothing
else. -/
theorem report_one_statement_one_document (vars : Variables) (server : Server) :
    let ended := ((report vars).outcome vars server).1
    let left := ((report vars).outcome vars server).2
    (∃ sent, left.received = server.received ++ sent ∧ sent.length ≤ 1 ∧ ∀ r ∈ sent,
      ∃ a, Asks vars a ∧ Run.Connects vars server ∧ r = a.record server ∧
        (∀ shape, a.shape = .report shape → a.query.compile = .ok ⟨a.query, a.sql⟩) ∧
        (∀ e ∈ a.dimensions, e ∈ Catalog.standard.dimensions) ∧
        (∀ e ∈ a.measures, e ∈ Catalog.standard.measures) ∧ a.limit ≤ 4294967295) ∧
    ((¬ ∃ a, Asks vars a) ∨ ¬ Run.Connects vars server →
      left = server ∧ ended.exitCode = 1 ∧ ended.output = "") ∧
    (∀ vars' a, Asks vars a → Asks vars' a →
      Run.Connects vars server → Run.Connects vars' server →
        ((report vars').outcome vars' server).2 = left ∧
          ((report vars').outcome vars' server).1.exitCode = ended.exitCode ∧
          ((report vars').outcome vars' server).1.output = ended.output) ∧
    (ended.output ≠ "" ↔ ended.exitCode = 0) ∧
    (ended.exitCode = 0 → Json.IsDocument ended.output ∧
      ∃ a tree cs, Asks vars a ∧ a.Answered server tree ∧ tree.Renders cs ∧
        ended.output.toList = cs ++ ['\n']) ∧
    ∀ output, ended.exitCode = 0 ∧ ended.output = output ↔
      ∃ a tree, Asks vars a ∧ Run.Connects vars server ∧ a.Answered server tree ∧
        output = tree.pretty ++ "\n" := by
  intro ended left
  by_cases ready : (∃ a, Asks vars a) ∧ Run.Connects vars server
  · obtain ⟨⟨a, asks⟩, lets⟩ := ready
    obtain ⟨sent, received, one, each⟩ := report_sends asks lets
    refine ⟨⟨sent, received, one, fun r there => ?_⟩, fun stopped => ?_,
      fun vars' a asks asks' lets lets' => ?_, report_prints_iff asks lets, fun succeeds => ?_,
      fun printed => ?_⟩
    · obtain ⟨rfl, accepted⟩ := each r there
      exact ⟨a, asks, lets, rfl, fun shape wanted => compile_accepted wanted accepted, asks.within⟩
    · rcases stopped with none_ | apart
      · exact absurd ⟨a, asks⟩ none_
      · exact absurd lets apart
    · obtain ⟨output, exitCode, after⟩ := ((report_ends vars server).1 a asks lets).outcome vars
      obtain ⟨output', exitCode', after'⟩ := ((report_ends vars' server).1 a asks' lets').outcome vars'
      exact ⟨after'.trans after.symm, exitCode'.trans exitCode.symm, output'.trans output.symm⟩
    · obtain ⟨tree, answered, output⟩ := report_succeeds asks lets succeeds
      rw [output]
      exact ⟨tree.pretty_isDocument, a, tree, _, asks, answered, tree.renders_chars (some 0),
        tree.pretty_line⟩
    · constructor
      · rintro ⟨succeeds, rfl⟩
        obtain ⟨tree, answered, output⟩ := report_succeeds asks lets succeeds
        exact ⟨a, tree, asks, lets, answered, output⟩
      · rintro ⟨a, tree, asks, -, answered, rfl⟩
        exact report_answered asks lets answered
  · obtain ⟨e, ends⟩ := (report_ends vars server).2 (not_and_or.mp ready)
    obtain ⟨output, exitCode, after⟩ := ends.outcome vars
    have output : ended.output = "" := output
    have exitCode : ended.exitCode = 1 := exitCode
    have after : left = server := after
    refine ⟨⟨[], by simp [after], by simp, by simp⟩, fun _ => ⟨after, exitCode, output⟩, ?_, ?_, ?_, ?_⟩
    · intro vars' a asks _ lets
      exact absurd ⟨⟨a, asks⟩, lets⟩ ready
    · simp [output, exitCode]
    · simp [exitCode]
    · rintro printed
      constructor
      · rintro ⟨succeeds, -⟩
        simp [exitCode] at succeeds
      · rintro ⟨a, tree, asks, lets, -⟩
        exact absurd ⟨⟨a, asks⟩, lets⟩ ready

/-- Event counts by name, asked for plainly and with blanks, empty keys and the limit written out. -/
def countsPlainly : Variables := [("REPORT_DIMENSIONS", "event_name"), ("REPORT_MEASURES", "event_count")]

def countsOddly : Variables := [("REPORT_LIMIT", "+0"), ("REPORT_SHAPE", "table"),
  ("REPORT_MEASURES", ",event_count"), ("REPORT_DIMENSIONS", " event_name ,,")]

/-- A server with one count. -/
def counted : Server := Report.replying [⟨"name", "text"⟩, ⟨"count", "int8"⟩]
  [[some [97], some [0, 0, 0, 0, 0, 0, 0, 5]]]

/-- What is printed of the one count. -/
def countedTree : Json.Tree := .record [
  ("dimension_headers", .list [.record [("key", .text "event_name"), ("label", .text "Event Name")]]),
  ("measure_headers", .list [.record [("key", .text "event_count"), ("label", .text "Event Count")]]),
  ("rows", .list [.record [("dimension_values", .list [.text "a"]),
    ("measure_values", .list [.number (.ofInt 5)])]])]

/-- Both ask for the same and get the same, and a text of SQL in place of a key gets nothing sent. -/
theorem report_one_statement_one_document_counts :
    let hostile : Variables := [("REPORT_DIMENSIONS", "name; DROP TABLE events")]
    ((report countsPlainly).outcome countsPlainly counted).1.exitCode = 0 ∧
      ((report countsPlainly).outcome countsPlainly counted).1.output =
        countedTree.pretty ++ "\n" ∧
      ((report countsOddly).outcome countsOddly counted).2 =
        ((report countsPlainly).outcome countsPlainly counted).2 ∧
      ((report hostile).outcome hostile counted).2 = counted := by
  intro hostile
  let a : Asked := ⟨Report.countsByName.dimensions, Report.countsByName.measures, 0, .report .table⟩
  have plainly : Asks countsPlainly a := ⟨⟨"event_name", by decide +kernel⟩,
    ⟨"event_count", by decide +kernel⟩, by decide +kernel, by decide +kernel⟩
  have oddly : Asks countsOddly a := ⟨⟨" event_name ,,", by decide +kernel⟩,
    ⟨",event_count", by decide +kernel⟩, by decide +kernel, by decide +kernel⟩
  have unknown : ¬ ∃ a, Asks hostile a := by
    rintro ⟨a, ⟨keys, found, resolved⟩, -⟩
    obtain rfl := Except.ok.inj found
    have refused : (Catalog.standard.resolve .dimension "name; DROP TABLE events").toOption = none := by
      decide +kernel
    rw [resolved] at refused
    cases refused
  have lets : ∀ vars ∈ [countsPlainly, countsOddly], Run.Connects vars counted := by
    have settings : ∀ vars ∈ [countsPlainly, countsOddly], DatabaseConfig.read vars =
        .ok ⟨"localhost", 5432, "postgres", "postgres", "pixel"⟩ := by decide +kernel
    exact fun vars there => ⟨_, ⟨["localhost"], [5432], [("sslmode", "disable"), ("dbname", "pixel"),
      ("password", "postgres"), ("user", "postgres")]⟩, settings vars there, by decide +kernel, rfl,
      by decide +kernel, rfl⟩
  have reply : counted.replyTo a.sql = {
      columns := [⟨"name", "text"⟩, ⟨"count", "int8"⟩]
      rows := [[some [97], some [0, 0, 0, 0, 0, 0, 0, 5]]] } := Report.replying_replyTo _ _ a.query
  have answered : a.Answered counted countedTree := by
    have read : readRow [⟨"name", "text"⟩, ⟨"count", "int8"⟩] [some [97], some [0, 0, 0, 0, 0, 0, 0, 5]] =
        .ok [.text "a", .int 5] := by decide +kernel
    refine ⟨by decide +kernel, rfl, by rw [reply]; rfl, by rw [reply]; rfl, ?_⟩
    have row : Cursor.Reads a.query (.ok [.text "a", .int 5]) ⟨["a"], [.ofInt 5]⟩ := .row rfl
    rw [← read] at row
    rw [reply]
    exact .report rfl (@Report.Publishes.table a.query ⟨_, _, _, _, _⟩ [_] (.cons row .nil))
  obtain ⟨-, -, same, -, -, prints⟩ := report_one_statement_one_document countsPlainly counted
  obtain ⟨-, stops, -⟩ := report_one_statement_one_document hostile counted
  obtain ⟨succeeds, output⟩ := (prints _).mpr ⟨a, _, plainly, lets _ (by simp), answered, rfl⟩
  exact ⟨succeeds, output, (same _ a plainly oddly (lets _ (by simp)) (lets _ (by simp))).1,
    (stops (.inl unknown)).1⟩

end Clickstream.Program
