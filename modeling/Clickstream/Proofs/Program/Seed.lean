import Clickstream.Program.Seed
import Clickstream.Proofs.Database.Agreement
import Clickstream.Proofs.Program.Run
import Clickstream.Proofs.Traffic.Storable
import Clickstream.Proofs.Traffic.Structure

/-! Runs of the seed program: what reaches the server, and when the program ends well. Traffic that has
been generated is never found fault with, so all that can go wrong then is the server's doing. -/
namespace Clickstream.Program
open Database Log Run

/-- The program comes to load these events: it reads the configuration of a plan, is let in by the
server, has the relation created, and the source gives the events for the plan. -/
structure Loads (vars : Variables) (source : RandomSource) (server : Server) (p : Plan)
    (events : List Event) : Prop where
  config : TrafficConfig.read vars = .ok p.toTrafficConfig
  connects : Connects vars server
  listens : server.closed = false
  creates : (server.replyTo createSql).fault? .stream = none
  generated : p.generate source = .ok events

section Steps
variable {s : Server}

private theorem config_ends {vars : Variables} {config : Except ConfigError TrafficConfig}
    (read : TrafficConfig.read vars = config) :
    Ends (required seedName "Failed to initialize seed config" do
      return (← TrafficConfig.load vars).mapError .config) s (config.mapError .config) s :=
  read ▸ .load _ _ vars s

private theorem plan_ends {c : TrafficConfig} {plan : Except PlanError Plan}
    (made : Plan.ofConfig c = plan) :
    Ends (required seedName "Invalid seed config" (return (Plan.ofConfig c).mapError .plan)) s
      (plan.mapError .plan) s :=
  made ▸ .settled _ _ _ s

private theorem create_ends {created : Except StatementFault Unit} {s' : Server}
    (ran : Server.command createSql s = (created, s')) :
    Ends (stored seedName "Failed to create the events relation" Server.ensureSchema) s
      ((created.mapError .query).mapError .store) s' := by
  have same : Server.ensureSchema s =
      ((Server.command createSql s).1.mapError .query, (Server.command createSql s).2) := rfl
  have ends := Ends.stored seedName "Failed to create the events relation" Server.ensureSchema s
  rwa [same, ran] at ends

private theorem generate_ends {source : RandomSource} {p : Plan}
    {events : Except GenerationFault (List Event)} (generated : p.generate source = events) :
    Ends (required seedName "Failed to generate events"
      (return (p.generate source).mapError .generation)) s (events.mapError .generation) s :=
  generated ▸ .settled _ _ _ s

private theorem copy_ends {events : List Event} {rows : List (List Field)}
    (mapped : events.mapM eventRow = .ok rows) {copied : Except StatementFault Nat} {s' : Server}
    (loaded : Server.transaction (Server.copyIn copySql rows) s = (copied, s')) :
    Ends (required seedName "Failed to load events" do
      return (← Server.copy events).mapError .store) s
      ((copied.mapError .query).mapError .store) s' := by
  have ends := fun log => Server.copy_rows mapped ⟨s, log⟩
  simp only [loaded] at ends
  exact .relabelled .store ends _ _

end Steps

variable {vars : Variables} {source : RandomSource} {server : Server} {p : Plan} {events : List Event}

/-- A program that comes to load its events ends as the load does. -/
theorem Loads.ends (loads : Loads vars source server p events) {rows : List (List Field)}
    (mapped : events.mapM eventRow = .ok rows) {copied : Except StatementFault Nat} {final : Server}
    (loaded : Server.transaction (Server.copyIn copySql rows) (server.sent createSql id) =
      (copied, final)) :
    Ends (seed vars source) server (((copied.mapError .query).mapError .store).map fun _ => "") final := by
  obtain ⟨_, connected, passes⟩ := connect_ends seedName vars server
  obtain rfl := passes.mpr loads.connects
  have created := Server.command_open loads.listens createSql
  rw [loads.creates] at created
  refine (config_ends loads.config).bind ((plan_ends (Plan.ofConfig_eq_ok.mpr rfl)).bind ?_)
  refine connected.bind ((create_ends created).bind ?_)
  refine (generate_ends loads.generated).bind ((Ends.note _ _ _ _).bind ?_)
  have copies := copy_ends mapped loaded
  cases copied with
  | error fault => exact copies.bind_error _
  | ok n => exact copies.bind ((Ends.note _ _ _ _).bind (.pure _ _))

/-- A program that does not come to load events fails, and the creation of the relation is all it can
have sent. -/
theorem seed_fails (stopped : ∀ p events, ¬ Loads vars source server p events) :
    Fails (seed vars source) server fun final =>
      final.received = server.received ∨ final.received = server.received ++ [Server.plain createSql] := by
  unfold seed
  cases config : TrafficConfig.read vars with
  | error e => exact .here (config_ends config) (.inl rfl)
  | ok c =>
    refine .later (config_ends config) ?_
    obtain ⟨plan, made⟩ : ∃ plan, Plan.ofConfig c = plan := ⟨_, rfl⟩
    cases plan with
    | error e => exact .here (plan_ends made) (.inl rfl)
    | ok p =>
      obtain rfl := Plan.ofConfig_eq_ok.mp made
      refine .later (plan_ends made) ?_
      obtain ⟨result, connected, passes⟩ := connect_ends seedName vars server
      cases result with
      | error e => exact .here connected (.inl rfl)
      | ok =>
        refine .later connected ?_
        cases listens : server.closed with
        | true => exact .here (create_ends (Server.command_closed listens _)) (.inl rfl)
        | false =>
          have created := Server.command_open listens createSql
          have sent : (server.sent createSql id).received =
              server.received ++ [Server.plain createSql] := server.sent_plain _
          cases creates : (server.replyTo createSql).fault? .stream with
          | some fault =>
            rw [creates] at created
            exact .here (create_ends created) (.inr sent)
          | none =>
            rw [creates] at created
            refine .later (create_ends created) ?_
            obtain ⟨outcome, generated⟩ : ∃ outcome, p.generate source = outcome := ⟨_, rfl⟩
            cases outcome with
            | error fault => exact .here (generate_ends generated) (.inr sent)
            | ok events =>
              exact absurd ⟨config, passes.mp rfl, listens, creates, generated⟩ (stopped p events)

private theorem create_not_commit : Server.plain createSql ≠ Server.plain "COMMIT" := by
  intro same
  rw [Server.plain, Server.plain, Received.mk.injEq] at same
  have words : Server.firstWord createSql = Server.firstWord "COMMIT" := by
    unfold Server.firstWord
    rw [same.1]
  rw [Server.firstWord_create] at words
  exact absurd words (by decide +kernel)

/-- Whatever the variables, the source and the server, the program ends well exactly if a commit is among
what it sends and the server runs it. -/
theorem seed_commits (vars : Variables) (source : RandomSource) (server : Server) :
    ∃ sent, ((seed vars source).outcome vars server).2.received = server.received ++ sent ∧
      (((seed vars source).outcome vars server).1.exitCode = 0 ↔ Server.plain "COMMIT" ∈ sent ∧
        ((server.sent createSql id).loadReplies.2.2).fault? .stream = none) := by
  by_cases loading : ∃ p events, Loads vars source server p events
  · obtain ⟨p, events, loads⟩ := loading
    obtain ⟨-, storable⟩ := Plan.generate_storable loads.generated
    obtain ⟨rows, mapped, -⟩ := rows_of_storable storable
    obtain ⟨sent, received, commits⟩ := Server.copy_commits storable ⟨server.sent createSql id, []⟩
    obtain ⟨answer, state⟩ := Server.copy_rows mapped ⟨server.sent createSql id, []⟩
    obtain ⟨-, exitCode, final⟩ := (loads.ends mapped Prod.mk.eta.symm).outcome vars
    refine ⟨Server.plain createSql :: sent, ?_, ?_⟩
    · rw [final, ← state, received]
      simp [Server.sent_plain]
    · rw [List.mem_cons, or_iff_right create_not_commit.symm, ← commits, answer, exitCode]
      cases (Server.transaction (Server.copyIn copySql rows) (server.sent createSql id)).1 <;>
        simp [Except.mapError, Except.map, Except.isOk, Except.toBool]
  · have stopped : ∀ p events, ¬ Loads vars source server p events :=
      fun p events loads => loading ⟨p, events, loads⟩
    obtain ⟨e, final, ends, left⟩ := seed_fails stopped
    obtain ⟨-, exitCode, state⟩ := ends.outcome vars
    rw [state, exitCode]
    rcases left with nothing | created
    · exact ⟨[], by simp [nothing], by simp [Except.isOk, Except.toBool]⟩
    · exact ⟨_, created, by simp [Except.isOk, Except.toBool, create_not_commit.symm]⟩

/-- Traffic that has been generated always loads. Every event can be stored, so a bulk load of them finds
fault with none. A program with the plan's configuration that a willing server lets in sends it, after the
creation of the relation, one transaction with the rows of all events in order, and ends well. Whatever
the server and the variables, the program ends well exactly if a commit is among what it sends, and the
reply that the server has for the commit of this load does not fail it. -/
theorem seed_loads {p : Plan} {source : RandomSource} {events : List Event}
    (generated : p.generate source = .ok events) :
    (∀ e ∈ events, e.Storable) ∧
    (∀ t flaw, (Server.copy events t).1 ≠ .error (.invalidEvent flaw)) ∧
    (∀ vars server, TrafficConfig.read vars = .ok p.toTrafficConfig → Connects vars server →
      server.Willing →
      let ended := (seed vars source).outcome vars server
      ended.1.exitCode = 0 ∧ ∃ copied rows,
        ended.2.received = server.received ++ [Server.plain createSql,
          Server.plain "START TRANSACTION", copied, Server.plain "COMMIT"] ∧
        copied.sql = Text.collapse copySql ∧ copied.copied = some rows ∧
        rows.length = p.eventCount ∧ List.Forall₂ copied.Carries events rows) ∧
    ∀ vars server,
      let ended := (seed vars source).outcome vars server
      ∃ sent, ended.2.received = server.received ++ sent ∧
        (ended.1.exitCode = 0 ↔ Server.plain "COMMIT" ∈ sent ∧
          ((server.sent createSql id).loadReplies.2.2).fault? .stream = none) := by
  obtain ⟨count, storable⟩ := Plan.generate_storable generated
  obtain ⟨rows, mapped, made⟩ := rows_of_storable storable
  refine ⟨storable, fun t flaw refused => ?_, fun vars server config connects willing => ?_,
    fun vars server => seed_commits vars source server⟩
  · rw [Server.copy_refused_iff, mapped] at refused
    cases refused
  · have loads : Loads vars source server p events :=
      ⟨config, connects, willing.1, Server.fault?_mild (willing.reply createSql), generated⟩
    obtain ⟨running, commits⟩ := (willing.sent createSql id).load
    obtain ⟨result, copied, sql, taken, received⟩ := Server.load_committed running rows
    obtain ⟨-, exitCode, final⟩ := (loads.ends mapped Prod.mk.eta.symm).outcome vars
    rw [commits] at result
    refine ⟨?_, copied, rows, ?_, sql, taken, made.length_eq.symm.trans count,
      made.imp fun _ _ => carries_of_row sql⟩
    · rw [exitCode, result]
      rfl
    · rw [final, received]
      simp [Server.sent_plain]

/-- Variables that ask for the traffic of two visitors. -/
def smallVariables : Variables :=
  [("SEED_USERS", "2"), ("SEED_SESSIONS_PER_USER", "1.5"), ("SEED_EVENTS_PER_SESSION", "1.75")]

private theorem small_read :
    (TrafficConfig.read smallVariables).toOption = some Plan.small.toTrafficConfig ∧
      ((connect seedName smallVariables).on Server.quiet).1 = .ok () ∧ Plan.small.eventCount = 5 ∧
      (Plan.small.generate (.scripted #[] 7 100)).toOption.isSome := by
  decide +kernel

theorem seed_loads_small :
    TrafficConfig.read smallVariables = .ok Plan.small.toTrafficConfig ∧
      Connects smallVariables Server.quiet.state ∧ Server.quiet.state.Willing ∧
      ∃ events, Plan.small.generate (.scripted #[] 7 100) = .ok events ∧
        (∀ e ∈ events, e.Storable) ∧
        let ended := (seed smallVariables (.scripted #[] 7 100)).outcome smallVariables Server.quiet.state
        ended.1.exitCode = 0 ∧ ∃ copied rows,
          ended.2.received = [Server.plain createSql, Server.plain "START TRANSACTION", copied,
            Server.plain "COMMIT"] ∧
          copied.copied = some rows ∧ rows.length = 5 := by
  obtain ⟨read, passed, count, ends⟩ := small_read
  have config : TrafficConfig.read smallVariables = .ok Plan.small.toTrafficConfig := by
    cases outcome : TrafficConfig.read smallVariables with
    | error e => simp [outcome, Except.toOption] at read
    | ok c => simpa [outcome, Except.toOption] using read
  have connects : Connects smallVariables Server.quiet.state := by
    obtain ⟨result, connected, passes⟩ := connect_ends seedName smallVariables Server.quiet.state
    exact passes.mp ((connected []).1.symm.trans passed)
  have willing : Server.quiet.state.Willing := ⟨rfl, by simp [Server.quiet]⟩
  refine ⟨config, connects, willing, ?_⟩
  cases generated : Plan.small.generate (.scripted #[] 7 100) with
  | error fault => simp [generated, Except.toOption] at ends
  | ok events =>
    obtain ⟨storable, -, loads, -⟩ := seed_loads generated
    obtain ⟨exitCode, copied, rows, received, -, taken, length, -⟩ :=
      loads smallVariables Server.quiet.state config connects willing
    exact ⟨events, rfl, storable, exitCode, copied, rows, received, taken, length.trans count⟩

end Clickstream.Program
