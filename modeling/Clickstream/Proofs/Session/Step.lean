import Clickstream.Proofs.Report.Asking
import Clickstream.Proofs.Report.Reading
import Clickstream.Session.Basic

/-! One request of a session: what it asks its store, what it keeps there, and what it does to the
open cursors. -/
namespace Clickstream
open Log

namespace Request

/-- The statements of a query that is run: none if the query is refused. -/
def statementsOf (q : Query) : List String := if q.isEmpty then [] else [q.statement]

/-- The statements that a request passes to the store, taken or not. -/
def executed : Request → List String
  | .openCursor _ q => statementsOf q
  | .openRaw _ _ sql => [sql]
  | .report .table q => statementsOf q
  | .report .lineChart q =>
    match ChartShape.ofQuery q with
    | .error _ => []
    | .ok _ => statementsOf q
  | .drain sql => [sql]
  | _ => []

/-- The events that a request adds to the store. -/
def accepted : Request → List Event
  | .insert e =>
    match e.validate with
    | .error _ => []
    | .ok () => [e]
  | _ => []

end Request

namespace Session

/-- The answer to one more request. -/
def answer (s : Session) (request : Request) : Except RequestError Reply := (step request s).1

@[simp] theorem onStore_fst {α : Type} (action : Logging MemoryStore α) (s : Session) :
    (onStore action s).1 = (action ⟨s.store, s.log⟩).1 := rfl

@[simp] theorem onStore_store {α : Type} (action : Logging MemoryStore α) (s : Session) :
    (onStore action s).2.store = (action ⟨s.store, s.log⟩).2.state := rfl

theorem openOn_eq (q : Query) (t : Logged MemoryStore) :
    (Cursor.openOn q t).1 =
        (if q.isEmpty then .error (.query .empty)
        else if t.state.failExecute then .error (.store (.query (.rejected q.statement)))
        else .ok (⟨q, t.state.stream⟩, q.statement)) ∧
      (Cursor.openOn q t).2.state =
        { t.state with statements := t.state.statements ++ Request.statementsOf q } := by
  obtain ⟨⟨rows, failAfter, failExecute, statements, events, released⟩, log⟩ := t
  unfold Cursor.openOn Query.prepare Query.compile Request.statementsOf
  cases q.isEmpty with
  | true =>
    have same : statements = statements ++ [] := (List.append_nil _).symm
    exact ⟨rfl, congrArg (MemoryStore.mk rows failAfter failExecute · events released) same⟩
  | false => cases failExecute <;> exact ⟨rfl, rfl⟩

theorem lookup_entry (name other : String) (c : Cursor)
    (cursors : List (String × Cursor)) :
    ((name, c) :: cursors).lookup other =
      if other = name then some c else cursors.lookup other := by
  rw [List.lookup_cons]
  by_cases h : other = name
  · simp [h]
  · simp [h, beq_eq_false_iff_ne.mpr h]

theorem lookup_forget (cursors : List (String × Cursor)) (id other : String) :
    (cursors.filter (·.1 ≠ id)).lookup other =
      if other = id then none else cursors.lookup other := by
  induction cursors with
  | nil => simp
  | cons entry cursors ih =>
    obtain ⟨name, c⟩ := entry
    by_cases hn : name = id
    · subst hn
      rw [List.filter_cons_of_neg (by simp), ih, lookup_entry]
      split <;> rfl
    · rw [List.filter_cons_of_pos (by simp [hn]), lookup_entry, lookup_entry, ih]
      by_cases ho : other = name
      · subst ho
        simp [hn]
      · simp [ho]

theorem lookup_replace (cursors : List (String × Cursor)) (id other : String)
    (later : Cursor) :
    (cursors.map fun entry => if entry.1 = id then (id, later) else entry).lookup other =
      if other = id then (cursors.lookup id).map fun _ => later else cursors.lookup other := by
  induction cursors with
  | nil => simp
  | cons entry cursors ih =>
    obtain ⟨name, c⟩ := entry
    rw [List.map_cons]
    by_cases hn : name = id
    · subst hn
      simp only [↓reduceIte, lookup_entry, Option.map_some]
      by_cases ho : other = name
      · simp [ho]
      · rw [if_neg ho, if_neg ho, if_neg ho, ih, if_neg ho]
    · simp only [hn, ↓reduceIte, lookup_entry, ih]
      by_cases ho : other = id
      · subst ho
        simp [Ne.symm hn]
      · simp [ho]

private theorem forget_absent {cursors : List (String × Cursor)} {id : String}
    (absent : id ∉ cursors.map Prod.fst) : cursors.filter (·.1 ≠ id) = cursors := by
  rw [List.filter_eq_self]
  intro entry hmem
  have : entry.1 ∈ cursors.map Prod.fst := List.mem_map_of_mem hmem
  simp only [decide_eq_true_eq]
  rintro rfl
  exact absent this

private theorem lookup_isSome (cursors : List (String × Cursor)) (id : String) :
    (cursors.lookup id).isSome ↔ id ∈ cursors.map Prod.fst := by
  induction cursors with
  | nil => simp
  | cons entry cursors ih =>
    obtain ⟨name, c⟩ := entry
    rw [lookup_entry, List.map_cons, List.mem_cons]
    by_cases h : id = name
    · simp [h]
    · simp [h, ih]

private theorem length_forget (id : String) {cursors : List (String × Cursor)}
    (distinct : (cursors.map Prod.fst).Nodup) :
    (cursors.filter (·.1 ≠ id)).length + (if (cursors.lookup id).isSome then 1 else 0) =
      cursors.length := by
  induction cursors with
  | nil => simp
  | cons entry cursors ih =>
    obtain ⟨name, c⟩ := entry
    rw [List.map_cons, List.nodup_cons] at distinct
    by_cases hn : name = id
    · subst hn
      rw [List.filter_cons_of_neg (by simp), forget_absent distinct.1, lookup_entry]
      simp
    · have later := ih distinct.2
      rw [List.filter_cons_of_pos (by simp [hn]), lookup_entry, if_neg (Ne.symm hn)]
      simp only [List.length_cons]
      omega

private theorem dropCursor_absent {id : String} {s : Session} (absent : s.cursor? id = none) :
    dropCursor id s = ((), s) := by
  change (if (s.cursor? id).isSome then _ else pure () : StateM Session Unit) s = _
  rw [absent]
  rfl

theorem dropCursor_eq (id : String) (s : Session) :
    (dropCursor id s).2.cursors = s.cursors.filter (·.1 ≠ id) ∧
      (dropCursor id s).2.store =
        { s.store with released := s.store.released + if (s.cursor? id).isSome then 1 else 0 } := by
  cases h : s.cursor? id with
  | none =>
    have absent : id ∉ s.cursors.map Prod.fst := by
      rw [← lookup_isSome]
      unfold cursor? at h
      simp [h]
    rw [dropCursor_absent h, forget_absent absent]
    exact ⟨rfl, rfl⟩
  | some c =>
    have dropped : dropCursor id s = onStore Cursor.release
        { s with cursors := s.cursors.filter (·.1 ≠ id) } := by
      change (if (s.cursor? id).isSome then _ else pure () : StateM Session Unit) s = _
      rw [h]
      rfl
    rw [dropped]
    exact ⟨rfl, rfl⟩

/-- A dropped cursor gives its stream back. -/
theorem dropCursor_balance (id : String) {s : Session}
    (distinct : (s.cursors.map Prod.fst).Nodup) :
    ((dropCursor id s).2.cursors.map Prod.fst).Nodup ∧
      (dropCursor id s).2.store.released + (dropCursor id s).2.cursors.length =
        s.store.released + s.cursors.length := by
  obtain ⟨cursors, store⟩ := dropCursor_eq id s
  have fewer := length_forget id distinct
  rw [cursors, store, cursor?]
  refine ⟨distinct.sublist (List.filter_sublist.map Prod.fst), ?_⟩
  cases present : s.cursors.lookup id with
  | none =>
    simp only [present, Option.isSome_none, Bool.false_eq_true, ↓reduceIte] at fewer ⊢
    omega
  | some c =>
    simp only [present, Option.isSome_some, ↓reduceIte] at fewer ⊢
    omega

theorem keep_eq (id : String) (c : Cursor) (s : Session) :
    (keep id c s).2.cursors = (id, c) :: s.cursors.filter (·.1 ≠ id) ∧
      (keep id c s).2.store =
        { s.store with released := s.store.released + if (s.cursor? id).isSome then 1 else 0 } := by
  obtain ⟨cursors, store⟩ := dropCursor_eq id s
  rw [← cursors, ← store]
  exact ⟨rfl, rfl⟩

theorem executed_report (shape : ReportShape) (q : Query) :
    (Request.report shape q).executed =
      match Report.refusal? shape q with
      | some _ => []
      | none => [q.statement] := by
  cases shape with
  | table =>
    cases empty : q.isEmpty <;>
      simp [Request.executed, Request.statementsOf, Report.refusal?, empty]
  | lineChart =>
    cases shaped : ChartShape.ofQuery q <;> cases empty : q.isEmpty <;>
      simp [Request.executed, Request.statementsOf, Report.refusal?, shaped, empty]

theorem run_eq (shape : ReportShape) (q : Query) (t : Logged MemoryStore) :
    (Report.run shape q t).2.state =
      { t.state with
        statements := t.state.statements ++ (Request.report shape q).executed
        released := t.state.released +
          if t.state.failExecute then 0 else (Request.report shape q).executed.length } := by
  rw [executed_report]
  cases refused : Report.refusal? shape q with
  | some e =>
    rw [Report.run_of_refusal refused]
    simp
  | none =>
    obtain ⟨-, state⟩ := Report.run_scripted refused t
    rw [state]
    rfl

section Steps
variable (s : Session)

private theorem onStore_execute (sql : String) :
    onStore (Logging.silent (EventStore.execute sql)) s =
      (if s.store.failExecute then .error (.query (.rejected sql)) else .ok s.store.stream,
        { s with store := { s.store with statements := s.store.statements ++ [sql] } }) := rfl

section Named
variable {s} {id : String} (act : Cursor → StateM Session (Except RequestError Reply))

private theorem named_absent (absent : s.cursor? id = none) :
    (do
      match (← get).cursor? id with
      | none => return .error .noCursor
      | some c => act c : StateM Session (Except RequestError Reply)) s = (.error .noCursor, s) := by
  change (match s.cursor? id with
    | none => return .error .noCursor
    | some c => act c : StateM Session (Except RequestError Reply)) s = _
  rw [absent]
  rfl

private theorem named_open {c : Cursor} (here : s.cursor? id = some c) :
    (do
      match (← get).cursor? id with
      | none => return .error .noCursor
      | some c => act c : StateM Session (Except RequestError Reply)) s = act c s := by
  change (match s.cursor? id with
    | none => return .error .noCursor
    | some c => act c : StateM Session (Except RequestError Reply)) s = _
  rw [here]

end Named

theorem step_openCursor (id : String) (q : Query) :
    step (.openCursor id q) s =
      match onStore (Cursor.openOn q) s with
      | (.error e, s') => (.error (.report e), s')
      | (.ok (c, sql), s') => (.ok (.opened sql), (keep id c s').2) := by
  simp only [step, bind, StateT.bind]
  generalize onStore (Cursor.openOn q) s = outcome
  obtain ⟨e | ⟨c, sql⟩, s'⟩ := outcome <;> rfl

theorem step_openRaw (id : String) (q : Query) (sql : String) :
    step (.openRaw id q sql) s =
      if s.store.failExecute then
        (.error (.store (.query (.rejected sql))),
          { s with store := { s.store with statements := s.store.statements ++ [sql] } })
      else
        (.ok .done, (keep id ⟨q, s.store.stream⟩
          { s with store := { s.store with statements := s.store.statements ++ [sql] } }).2) := by
  simp only [step, bind, StateT.bind, onStore_execute]
  cases s.store.failExecute <;> rfl

theorem step_next_none {id : String} (h : s.cursor? id = none) :
    step (.next id) s = (.error .noCursor, s) := named_absent _ h

theorem step_next_some {id : String} {c : Cursor} (h : s.cursor? id = some c) :
    step (.next id) s =
      ((c.next.1.map .row).mapError .report, { s with cursors := s.cursors.map fun entry =>
        if entry.1 = id then (id, c.next.2) else entry }) := named_open _ h

theorem step_describe (id : String) : (step (.describe id) s).2 = s := by
  cases h : s.cursor? id with
  | none => exact congrArg Prod.snd (named_absent _ h)
  | some c => exact congrArg Prod.snd (named_open _ h)

theorem step_close (id : String) : (step (.close id) s).2 = (dropCursor id s).2 := by
  cases h : s.cursor? id with
  | none =>
    rw [dropCursor_absent h]
    exact congrArg Prod.snd (named_absent _ h)
  | some c => exact congrArg Prod.snd (named_open _ h)

theorem step_consume_none (shape : ReportShape) {id : String} (h : s.cursor? id = none) :
    step (.consume shape id) s = (.error .noCursor, s) := named_absent _ h

theorem step_consume_some (shape : ReportShape) {id : String} {c : Cursor}
    (h : s.cursor? id = some c) :
    step (.consume shape id) s =
      (((Report.ofCursor shape c).map .report).mapError .report, (dropCursor id s).2) :=
  named_open _ h

theorem step_report (shape : ReportShape) (q : Query) :
    step (.report shape q) s =
      (((Report.run shape q ⟨s.store, s.log⟩).1.map .report).mapError .report,
        (onStore (Report.run shape q) s).2) := rfl

theorem step_drain (sql : String) :
    step (.drain sql) s =
      (if s.store.failExecute then .error (.store (.query (.rejected sql)))
        else .ok (.rows s.store.stream),
        { s with store := { s.store with
          statements := s.store.statements ++ [sql]
          released := s.store.released + if s.store.failExecute then 0 else 1 } }) := by
  simp only [step, bind, StateT.bind, onStore_execute]
  cases s.store.failExecute <;> rfl

theorem step_insert (e : Event) :
    step (.insert e) s =
      match e.validate with
      | .error flaw => (.error (.store (.invalidEvent flaw)), s)
      | .ok () => (.ok (.inserted (s.store.events ++ [e]).length),
        { s with store := { s.store with events := s.store.events ++ [e] } }) := by
  have inserted : step (.insert e) s =
      (((MemoryStore.insert e s.store).1.map .inserted).mapError .store,
        { s with store := (MemoryStore.insert e s.store).2 }) := rfl
  rw [inserted, MemoryStore.insert]
  cases e.validate <;> rfl

end Steps

private theorem rest_ne_query (c : Cursor) (e : QueryError) : c.rest ≠ .error (.query e) := by
  intro failed
  obtain ⟨_, _, _, stops, -⟩ := Cursor.rest_error.mp failed
  cases stops

private theorem statementsOf_of_query_error {q : Query} {t : Logged MemoryStore}
    {e : QueryError} (stopped : (Cursor.openOn q t).1 = .error (.query e)) :
    Request.statementsOf q = [] := by
  rw [(openOn_eq q t).1] at stopped
  unfold Request.statementsOf
  cases he : q.isEmpty with
  | true => rfl
  | false => cases hf : t.state.failExecute <;> simp [he, hf] at stopped

private theorem executed_of_run_error {shape : ReportShape} {q : Query} {t : Logged MemoryStore}
    {e : QueryError} (stopped : (Report.run shape q t).1 = .error (.query e)) :
    (Request.report shape q).executed = [] := by
  rw [executed_report]
  cases refused : Report.refusal? shape q with
  | some _ => rfl
  | none =>
    obtain ⟨answer, -⟩ := Report.run_scripted refused t
    obtain ⟨make, made⟩ := Report.ofCursor_of_accepted refused
    rw [answer, made] at stopped
    split at stopped
    · cases stopped
    · exact absurd (map_eq_error.mp stopped) (rest_ne_query _ e)

/-- A request that its query stops has asked the store nothing. -/
theorem executed_of_query_error {s : Session} {r : Request} {e : QueryError}
    (stopped : s.answer r = .error (.report (.query e))) : r.executed = [] := by
  unfold answer at stopped
  cases r with
  | openCursor id q =>
    rw [step_openCursor] at stopped
    refine statementsOf_of_query_error (t := ⟨s.store, s.log⟩) (e := e) ?_
    rw [← onStore_fst]
    generalize onStore (Cursor.openOn q) s = outcome at stopped
    obtain ⟨fault | opened, s'⟩ := outcome <;> simp_all
  | openRaw id q sql =>
    rw [step_openRaw] at stopped
    cases hf : s.store.failExecute <;> simp [hf] at stopped
  | drain sql =>
    rw [step_drain] at stopped
    cases hf : s.store.failExecute <;> simp [hf] at stopped
  | report shape q =>
    rw [step_report] at stopped
    refine executed_of_run_error (t := ⟨s.store, s.log⟩) (e := e) ?_
    cases hr : (Report.run shape q ⟨s.store, s.log⟩).1 <;>
      simp_all [Except.map, Except.mapError]
  | next id => rfl
  | describe id => rfl
  | close id => rfl
  | consume shape id => rfl
  | insert e => rfl

end Session
end Clickstream
