import Clickstream.Program.Basic
import Clickstream.Proofs.Outcome

/-! Runs step by step: what a run makes of a server and a log, and what it says at which level. -/
namespace Clickstream
open Log

namespace Run
variable {α β : Type}

/-- What a run does from a state: its result, and the state and the log after it. -/
def on (run : Run α) (t : Logged Database.Server) : Except ProgramError α × Logged Database.Server :=
  StateT.run (ExceptT.run run) t

@[simp] theorem on_pure (a : α) (t : Logged Database.Server) :
    (pure a : Run α).on t = (.ok a, t) := rfl

@[simp] theorem on_throw (e : ProgramError) (t : Logged Database.Server) :
    (throw e : Run α).on t = (.error e, t) := rfl

@[simp] theorem on_note (level : Level) (program message : String) (t : Logged Database.Server) :
    (note level program message).on t =
      (.ok (), { t with log := t.log ++ [⟨level, program, message⟩] }) := rfl

@[simp] theorem on_lift (step : Logging Database.Server α) (t : Logged Database.Server) :
    (lift step).on t = (.ok (step t).1, (step t).2) := rfl

/-- A step after another is not taken where that one fails. -/
theorem on_bind (first : Run α) (next : α → Run β) (t : Logged Database.Server) :
    (first >>= next).on t =
      match first.on t with
      | (.ok a, t') => (next a).on t'
      | (.error e, t') => (.error e, t') := by
  simp only [on, ExceptT.run, bind, ExceptT.bind, ExceptT.mk, StateT.bind, StateT.run,
    ExceptT.bindCont]
  generalize (first : Logged Database.Server → _) t = outcome
  obtain ⟨_ | _, t'⟩ := outcome <;> rfl

theorem on_bind_ok {first : Run α} {a : α} {t : Logged Database.Server}
    (passed : (first.on t).1 = .ok a) (next : α → Run β) :
    (first >>= next).on t = (next a).on (first.on t).2 := by
  rw [on_bind]
  generalize first.on t = outcome at passed ⊢
  obtain ⟨_, t'⟩ := outcome
  cases passed
  rfl

theorem on_bind_error {first : Run α} {e : ProgramError} {t : Logged Database.Server}
    (failed : (first.on t).1 = .error e) (next : α → Run β) :
    (first >>= next).on t = (.error e, (first.on t).2) := by
  rw [on_bind]
  generalize first.on t = outcome at failed ⊢
  obtain ⟨_, t'⟩ := outcome
  cases failed
  rfl

theorem on_map (f : α → β) (run : Run α) (t : Logged Database.Server) :
    (f <$> run).on t = ((run.on t).1.map f, (run.on t).2) := by
  simp only [on, ExceptT.run, Functor.map, ExceptT.map, ExceptT.mk, StateT.bind, StateT.run, bind]
  generalize (run : Logged Database.Server → _) t = outcome
  obtain ⟨_ | _, t'⟩ := outcome <;> rfl

/-- A step that has to pass ends as it does, and leaves what it leaves. -/
theorem required_on (program complaint : String)
    (step : Logging Database.Server (Except ProgramError α)) (t : Logged Database.Server) :
    ((required program complaint step).on t).1 = (step t).1 ∧
      ((required program complaint step).on t).2.state = (step t).2.state := by
  unfold required
  rw [on_bind, on_lift]
  generalize step t = outcome
  obtain ⟨e | a, t'⟩ := outcome <;> exact ⟨rfl, rfl⟩

/-- A step on the store alone ends as the store's step does, and leaves what that one leaves. -/
theorem stored_on (program complaint : String)
    (step : StateM Database.Server (Except StoreError α)) (t : Logged Database.Server) :
    ((stored program complaint step).on t).1 = (step t.state).1.mapError .store ∧
      ((stored program complaint step).on t).2.state = (step t.state).2 :=
  required_on _ _ _ t

/-- From a server the run ends with this result and leaves the server so, whatever has been logged. -/
def Ends (run : Run α) (s : Database.Server) (result : Except ProgramError α)
    (s' : Database.Server) : Prop :=
  ∀ log, (run.on ⟨s, log⟩).1 = result ∧ (run.on ⟨s, log⟩).2.state = s'

namespace Ends
variable {first : Run α} {next : α → Run β} {s s' s'' : Database.Server} {a : α} {e : ProgramError}

theorem pure (a : α) (s : Database.Server) : Ends (Pure.pure a) s (.ok a) s := fun _ => ⟨rfl, rfl⟩

theorem note (level : Level) (program message : String) (s : Database.Server) :
    Ends (Run.note level program message) s (.ok ()) s := fun _ => ⟨rfl, rfl⟩

theorem throw (e : ProgramError) (s : Database.Server) :
    Ends (MonadExcept.throw e : Run α) s (.error e) s := fun _ => ⟨rfl, rfl⟩

theorem bind {result : Except ProgramError β} (passed : Ends first s (.ok a) s')
    (later : Ends (next a) s' result s'') : Ends (first >>= next) s result s'' := by
  intro log
  obtain ⟨passed, left⟩ := passed log
  rw [on_bind_ok passed]
  generalize (first.on ⟨s, log⟩).2 = t at left
  obtain ⟨_, log'⟩ := t
  obtain rfl := left
  exact later log'

theorem bind_error (failed : Ends first s (.error e) s') (next : α → Run β) :
    Ends (first >>= next) s (.error e) s' := by
  intro log
  obtain ⟨failed, left⟩ := failed log
  rw [on_bind_error failed]
  exact ⟨rfl, left⟩

/-- A run whose value is changed afterwards. -/
theorem map {result : Except ProgramError α} (ends : Ends first s result s') (f : α → β) :
    Ends (do return f (← first)) s (result.map f) s' := by
  cases result with
  | error e => exact ends.bind_error _
  | ok a => exact ends.bind (.pure _ _)

theorem lift {step : Logging Database.Server α}
    (ends : ∀ log, (step ⟨s, log⟩).1 = a ∧ (step ⟨s, log⟩).2.state = s') :
    Ends (Run.lift step) s (.ok a) s' := fun log => ⟨congrArg _ (ends log).1, (ends log).2⟩

theorem required {step : Logging Database.Server (Except ProgramError α)}
    {result : Except ProgramError α}
    (ends : ∀ log, (step ⟨s, log⟩).1 = result ∧ (step ⟨s, log⟩).2.state = s')
    (program complaint : String) : Ends (Run.required program complaint step) s result s' := by
  intro log
  obtain ⟨same, left⟩ := required_on program complaint step ⟨s, log⟩
  exact ⟨same.trans (ends log).1, left.trans (ends log).2⟩

/-- A step that does nothing but pass or fail. -/
theorem settled (result : Except ProgramError α) (program complaint : String)
    (s : Database.Server) : Ends (Run.required program complaint (return result)) s result s :=
  required (fun _ => ⟨rfl, rfl⟩) _ _

/-- A step whose error is taken for one of the run. -/
theorem relabelled {ε : Type} {step : Logging Database.Server (Except ε α)}
    {result : Except ε α} (label : ε → ProgramError)
    (ends : ∀ log, (step ⟨s, log⟩).1 = result ∧ (step ⟨s, log⟩).2.state = s')
    (program complaint : String) :
    Ends (Run.required program complaint do return (← step).mapError label) s
      (result.mapError label) s' :=
  required (fun log => ⟨congrArg (Except.mapError label) (ends log).1, (ends log).2⟩) _ _

theorem stored (program complaint : String)
    (step : StateM Database.Server (Except StoreError α)) (s : Database.Server) :
    Ends (Run.stored program complaint step) s ((step s).1.mapError .store) (step s).2 :=
  fun _ => stored_on _ _ _ _

end Ends

/-- From a server the run ends with some error, and leaves the server like this. -/
def Fails (run : Run α) (s : Database.Server) (left : Database.Server → Prop) : Prop :=
  ∃ e s', Ends run s (.error e) s' ∧ left s'

namespace Fails
variable {first : Run α} {next : α → Run β} {s s' : Database.Server} {left : Database.Server → Prop}

theorem here {e : ProgramError} (failed : Ends first s (.error e) s') (leaves : left s') :
    Fails (first >>= next) s left := ⟨e, s', failed.bind_error next, leaves⟩

theorem later {a : α} (passed : Ends first s (.ok a) s') (fails : Fails (next a) s' left) :
    Fails (first >>= next) s left := by
  obtain ⟨e, s'', failed, leaves⟩ := fails
  exact ⟨e, s'', passed.bind failed, leaves⟩

end Fails

/-- A program ends well exactly if its run does. -/
theorem outcome_exitCode (vars : Variables) (run : Run String) (server : Database.Server) :
    (run.outcome vars server).1.exitCode =
      match (run.on ⟨server, []⟩).1 with
      | .ok _ => 0
      | .error _ => 1 := by
  unfold outcome on
  generalize StateT.run (ExceptT.run run) ⟨server, []⟩ = outcome
  obtain ⟨_ | _, t'⟩ := outcome <;> rfl

theorem outcome_server (vars : Variables) (run : Run String) (server : Database.Server) :
    (run.outcome vars server).2 = (run.on ⟨server, []⟩).2.state := rfl

/-- What is left to see of a run that ends so. Only a run that succeeds has an output. -/
theorem Ends.outcome {run : Run String} {s s' : Database.Server}
    {result : Except ProgramError String} (ends : Ends run s result s') (vars : Variables) :
    (run.outcome vars s).1.output = result.toOption.getD "" ∧
      (run.outcome vars s).1.exitCode = (if result.isOk then 0 else 1) ∧
      (run.outcome vars s).2 = s' := by
  obtain ⟨rfl, rfl⟩ := ends []
  unfold Run.outcome on
  generalize StateT.run (ExceptT.run run) ⟨s, []⟩ = outcome
  obtain ⟨_ | _, t'⟩ := outcome <;> exact ⟨rfl, rfl, rfl⟩

/-- The run says nothing at the level of information: what it adds to the log is warnings and
errors, or for debugging. -/
def Reserved (run : Run α) : Prop :=
  ∀ t, ∃ said, (run.on t).2.log = t.log ++ said ∧ ∀ r ∈ said, r.level ≠ .info

namespace Reserved

theorem pure (a : α) : Reserved (Pure.pure a : Run α) := fun t => ⟨[], by simp, by simp⟩

theorem throw (e : ProgramError) : Reserved (MonadExcept.throw e : Run α) :=
  fun t => ⟨[], (List.append_nil _).symm, by simp⟩

theorem note {level : Level} (other : level ≠ .info) (program message : String) :
    Reserved (Run.note level program message) := fun t => ⟨_, rfl, by simpa using other⟩

theorem bind {first : Run α} {next : α → Run β} (reserved : Reserved first)
    (later : ∀ a, Reserved (next a)) : Reserved (first >>= next) := by
  intro t
  obtain ⟨said, log, quiet⟩ := reserved t
  cases result : (first.on t).1 with
  | error e =>
    rw [on_bind_error result]
    exact ⟨said, log, quiet⟩
  | ok a =>
    obtain ⟨more, log', quiet'⟩ := later a (first.on t).2
    rw [on_bind_ok result]
    refine ⟨said ++ more, ?_, fun r h => ?_⟩
    · rw [log', log, List.append_assoc]
    · exact (List.mem_append.mp h).elim (quiet r) (quiet' r)

/-- A step of the store alone says nothing. -/
theorem silent (step : StateM Database.Server α) : Reserved (lift (Logging.silent step)) :=
  fun t => ⟨[], (List.append_nil _).symm, by simp⟩

/-- A step that fails is complained of as an error. -/
theorem required {step : Logging Database.Server (Except ProgramError α)}
    (reserved : Reserved (lift step)) (program complaint : String) :
    Reserved (Run.required program complaint step) := by
  unfold Run.required
  refine reserved.bind fun result => ?_
  cases result with
  | ok a => exact .pure a
  | error e => exact (note (by decide) _ _).bind fun _ => .throw e

theorem stored (program complaint : String)
    (step : StateM Database.Server (Except StoreError α)) :
    Reserved (Run.stored program complaint step) :=
  required (fun t => ⟨[], (List.append_nil _).symm, by simp⟩) _ _

end Reserved

private theorem load_reserved (vars : Variables) :
    Reserved (lift (DatabaseConfig.load vars : Logging Database.Server _)) := by
  intro t
  rw [on_lift]
  unfold DatabaseConfig.load Config.noted
  cases DatabaseConfig.read vars with
  | error e => exact ⟨[], (List.append_nil _).symm, by simp⟩
  | ok config => exact ⟨_, rfl, by simp⟩

private theorem server_connect (config : DatabaseConfig) (s : Database.Server) :
    ∃ result said, (∀ log, Database.Server.connect config ⟨s, log⟩ = (result, ⟨s, log ++ said⟩)) ∧
      (∀ r ∈ said, r.level ≠ .info) ∧
      (result = .ok () ↔ ∃ address, Database.Address.read? config.connectionString = some address ∧
        address.consistent = true ∧ s.reachable address = true ∧ s.refuses = false) := by
  have silent (log : List Record) (result : Except StoreError Unit) :
      (result, (⟨s, log⟩ : Logged Database.Server)) = (result, ⟨s, log ++ []⟩) := by rw [List.append_nil]
  unfold Database.Server.connect
  simp only [bind, StateT.bind, get, getThe, MonadStateOf.get, StateT.get, pure]
  cases Database.Address.read? config.connectionString with
  | none => exact ⟨_, [], fun log => silent log _, by simp, by simp⟩
  | some address =>
    simp only [Option.some.injEq, exists_eq_left']
    cases address.consistent
    · exact ⟨_, [], fun log => silent log _, by simp, by simp⟩
    cases s.reachable address
    · exact ⟨_, [], fun log => silent log _, by simp, by simp⟩
    by_cases refuses : s.refuses = true
    · simp only [refuses]
      exact ⟨_, [], fun log => silent log _, by simp, by simp⟩
    · simp only [refuses]
      exact ⟨_, _, fun log => rfl, by simp, by simp⟩

private theorem connect_reserved (config : DatabaseConfig) :
    Reserved (lift (Database.Server.connect config)) := by
  intro t
  obtain ⟨result, said, connected, quiet, -⟩ := server_connect config t.state
  rw [on_lift, connected t.log]
  exact ⟨said, rfl, quiet⟩

private theorem required_reserved {ε : Type} {step : Logging Database.Server (Except ε α)}
    (reserved : Reserved (lift step)) (label : ε → ProgramError) (program complaint : String) :
    Reserved (required program complaint do return (← step).mapError label) := by
  have reserved : Reserved (lift do return (← step).mapError label) := reserved
  exact reserved.required program complaint

/-- What is noted of a configuration and of a connection is for debugging. -/
theorem Reserved.connect (program : String) (vars : Variables) :
    Reserved (Run.connect program vars) := by
  unfold Run.connect
  refine (required_reserved (load_reserved vars) .config _ _).bind fun config => ?_
  exact required_reserved (connect_reserved config) .store _ _

/-- The variables name a database that lets the program in. -/
def Connects (vars : Variables) (s : Database.Server) : Prop :=
  ∃ config address, DatabaseConfig.read vars = .ok config ∧
    Database.Address.read? config.connectionString = some address ∧ address.consistent = true ∧
    s.reachable address = true ∧ s.refuses = false

private theorem noted_value (describe : α → String) (loaded : Except ConfigError α)
    (s : Database.Server) (log : List Record) :
    (Config.noted describe loaded ⟨s, log⟩).1 = loaded ∧
      (Config.noted describe loaded ⟨s, log⟩).2.state = s := by
  unfold Config.noted
  cases loaded <;> exact ⟨rfl, rfl⟩

/-- Configurations are loaded as they read. -/
theorem Ends.load {read : Variables → Except ConfigError α} {describe : α → String}
    (program complaint : String) (vars : Variables) (s : Database.Server) :
    Ends (Run.required program complaint do
      return (← Config.noted describe (read vars)).mapError .config) s
      ((read vars).mapError .config) s :=
  .relabelled .config (noted_value describe (read vars) s) _ _

/-- Connecting leaves the server as it is, and passes exactly if the server lets the program in. -/
theorem connect_ends (program : String) (vars : Variables) (s : Database.Server) :
    ∃ result, Ends (connect program vars) s result s ∧ (result = .ok () ↔ Connects vars s) := by
  have loads : Ends (required program "Failed to initialize Postgres config" do
      return (← DatabaseConfig.load vars).mapError .config) s
      ((DatabaseConfig.read vars).mapError .config) s := .load _ _ vars s
  unfold connect Connects
  cases read : DatabaseConfig.read vars with
  | error e =>
    rw [read] at loads
    exact ⟨_, loads.bind_error _, by simp⟩
  | ok config =>
    rw [read] at loads
    obtain ⟨result, said, connected, -, passes⟩ := server_connect config s
    have ends : ∀ log, (Database.Server.connect config ⟨s, log⟩).1 = result ∧
        (Database.Server.connect config ⟨s, log⟩).2.state = s := by
      intro log
      rw [connected log]
      exact ⟨rfl, rfl⟩
    refine ⟨_, loads.bind (.relabelled .store ends _ _), ?_⟩
    simp only [mapError_eq_ok, passes, Except.ok.injEq, exists_and_left, exists_eq_left']

/-- Connecting leaves the server as it is. -/
theorem connect_server (program : String) (vars : Variables) (t : Logged Database.Server) :
    ((connect program vars).on t).2.state = t.state := by
  obtain ⟨_, ends, -⟩ := connect_ends program vars t.state
  exact (ends t.log).2

end Run
end Clickstream
