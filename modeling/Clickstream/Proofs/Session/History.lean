import Clickstream.Proofs.Session.Step
import Clickstream.Proofs.Store.Memory

/-! What a session leaves behind, told from its requests alone: the statements its store was asked,
the events it keeps, the streams it gave back, and how far each open cursor has been read. -/
namespace Clickstream

namespace Request

/-- What a request does to the cursor of this name: the query it is of, and how often it was pulled
since it was opened. Nothing is opened on a store that takes no statement. -/
def follow (fails : Bool) (id : String) (life : Option (Query × Nat)) :
    Request → Option (Query × Nat)
  | .openCursor i q => if id = i ∧ !fails ∧ !q.isEmpty then some (q, 0) else life
  | .openRaw i q _ => if id = i ∧ !fails then some (q, 0) else life
  | .next i => if id = i then life.map fun (q, pulls) => (q, pulls + 1) else life
  | .close i => if id = i then none else life
  | .consume _ i => if id = i then none else life
  | _ => life

end Request

namespace Session

/-- The session that a list of requests leaves. -/
def after (s : Session) (requests : List Request) : Session :=
  requests.foldl (fun s request => (step request s).2) s

/-- A session over a store as it was set up. -/
def scripted (rows : List (List Cell)) (failAfter : Option Nat) (failExecute : Bool) : Session :=
  ⟨.scripted rows failAfter failExecute, [], []⟩

/-- The cursor of this name after a list of requests: its query, and how often it was pulled. -/
def life (fails : Bool) (requests : List Request) (id : String) : Option (Query × Nat) :=
  requests.foldl (Request.follow fails id) none

/-- What is known of a session: its script is that of `start`, it has recorded these statements and
events, it has opened so many streams, and its cursors are as far as these lives say. -/
structure Tells (start : MemoryStore) (statements : List String) (events : List Event)
    (opened : Nat) (life : String → Option (Query × Nat)) (s : Session) : Prop where
  store : s.store = { start with statements, events, released := s.store.released }
  distinct : (s.cursors.map Prod.fst).Nodup
  balance : s.store.released + s.cursors.length = opened
  cursor : ∀ id, s.cursor? id = (life id).map fun (q, pulls) => ⟨q, start.stream.drop pulls⟩

namespace Tells
variable {start : MemoryStore} {statements : List String} {events : List Event} {opened : Nat}
  {life : String → Option (Query × Nat)} {s : Session}

theorem stream (h : Tells start statements events opened life s) : s.store.stream = start.stream := by
  rw [h.store]
  rfl

theorem fails (h : Tells start statements events opened life s) :
    s.store.failExecute = start.failExecute := by
  rw [h.store]

theorem drop (h : Tells start statements events opened life s) (id : String) :
    Tells start statements events opened (fun other => if other = id then none else life other)
      (dropCursor id s).2 := by
  obtain ⟨cursors, store⟩ := dropCursor_eq id s
  obtain ⟨distinct, balance⟩ := dropCursor_balance id h.distinct
  refine ⟨?_, distinct, balance.trans h.balance, ?_⟩
  · rw [store, h.store]
  · intro other
    rw [cursor?, cursors, lookup_forget]
    by_cases ho : other = id
    · simp [ho]
    · rw [if_neg ho, if_neg ho]
      exact h.cursor other

theorem keep (h : Tells start statements events opened life s) (id : String) (q : Query) :
    Tells start statements events (opened + 1)
      (fun other => if other = id then some (q, 0) else life other)
      (Session.keep id ⟨q, start.stream⟩ s).2 := by
  have forgotten := h.drop id
  obtain ⟨cursors, store⟩ := keep_eq id ⟨q, start.stream⟩ s
  obtain ⟨dropped, same⟩ := dropCursor_eq id s
  rw [← dropped] at cursors
  rw [← same] at store
  refine ⟨?_, ?_, ?_, ?_⟩
  · rw [store, forgotten.store]
  · rw [cursors, List.map_cons, List.nodup_cons]
    refine ⟨?_, forgotten.distinct⟩
    rw [dropped, List.mem_map]
    rintro ⟨entry, hmem, hid⟩
    simp [hid] at hmem
  · rw [cursors, store, List.length_cons, ← forgotten.balance]
    omega
  · intro other
    rw [cursor?, cursors, lookup_entry]
    by_cases ho : other = id
    · simp [ho]
    · rw [if_neg ho, if_neg ho]
      have := forgotten.cursor other
      rwa [if_neg ho] at this

/-- A pull moves one cursor by one item, and no other. -/
theorem pull (h : Tells start statements events opened life s) {id : String} {c : Cursor}
    (open_ : s.cursor? id = some c) :
    Tells start statements events opened
      (fun other => if other = id then (life other).map fun (q, pulls) => (q, pulls + 1)
        else life other)
      { s with cursors := s.cursors.map fun entry =>
        if entry.1 = id then (id, c.next.2) else entry } := by
  refine ⟨h.store, ?_, ?_, ?_⟩
  · have names : (s.cursors.map fun entry =>
        if entry.1 = id then (id, c.next.2) else entry).map Prod.fst = s.cursors.map Prod.fst := by
      rw [List.map_map]
      refine List.map_congr_left fun entry _ => ?_
      simp only [Function.comp_apply]
      split
      · simp_all
      · rfl
    rw [names]
    exact h.distinct
  · simpa using h.balance
  · intro other
    rw [cursor?, lookup_replace]
    by_cases ho : other = id
    · subst ho
      have here := h.cursor other
      rw [open_] at here
      rw [if_pos rfl, if_pos rfl]
      obtain ⟨⟨q, pulls⟩, hl, rfl⟩ : ∃ l, life other = some l ∧
          c = ⟨l.1, start.stream.drop l.2⟩ := by
        cases hl : life other with
        | none => simp [hl] at here
        | some l => exact ⟨l, rfl, by simpa [hl] using here⟩
      unfold cursor? at open_
      rw [open_, hl]
      cases hd : start.stream.drop pulls with
      | nil => simp [Cursor.next, hd, ← List.tail_drop]
      | cons item rest => simp [Cursor.next, hd, ← List.tail_drop]
    · rw [if_neg ho, if_neg ho]
      exact h.cursor other

/-- What is told after something was done on the store alone. -/
theorem onStore (h : Tells start statements events opened life s) {s' : Session}
    (more : List String) (new : List Event) (k : Nat) (cursors : s'.cursors = s.cursors)
    (store : s'.store = { s.store with
      statements := s.store.statements ++ more, events := s.store.events ++ new
      released := s.store.released + k }) :
    Tells start (statements ++ more) (events ++ new) (opened + k) life s' := by
  refine ⟨?_, ?_, ?_, ?_⟩
  · rw [store, h.store]
  · rw [cursors]
    exact h.distinct
  · have balance := h.balance
    rw [store, cursors]
    simp only
    omega
  · intro id
    rw [cursor?, cursors]
    exact h.cursor id

theorem absent (h : Tells start statements events opened life s) {id : String}
    (none_ : s.cursor? id = none) : life id = none := by
  have here := h.cursor id
  rw [none_] at here
  simpa using here.symm

end Tells

namespace Tells
variable {start : MemoryStore} {statements : List String} {events : List Event} {opened : Nat}
  {life : String → Option (Query × Nat)} {s : Session}

theorem opened_query (h : Tells start statements events opened life s) (id : String) (q : Query) :
    Tells start (statements ++ Request.statementsOf q) events
      (opened + if start.failExecute then 0 else (Request.statementsOf q).length)
      (fun other => (Request.openCursor id q).follow start.failExecute other (life other))
      (Session.step (.openCursor id q) s).2 := by
  rw [step_openCursor]
  obtain ⟨result, state⟩ := openOn_eq q ⟨s.store, s.log⟩
  have asked : Tells start _ _ _ life (Session.onStore (Cursor.openOn q) s).2 :=
    h.onStore (Request.statementsOf q) [] 0 rfl (by simpa using state)
  rw [← onStore_fst] at result
  generalize Session.onStore (Cursor.openOn q) s = outcome at result asked
  obtain ⟨answer, s'⟩ := outcome
  simp only at result asked
  subst result
  simp only [Request.follow]
  cases he : q.isEmpty with
  | true => simpa [he, Request.statementsOf] using asked
  | false =>
    cases hf : start.failExecute with
    | true => simpa [h.fails, hf] using asked
    | false =>
      have kept := asked.keep id q
      rw [← h.stream] at kept
      simpa [h.fails, hf, Request.statementsOf, he] using kept

theorem opened_raw (h : Tells start statements events opened life s) (id : String) (q : Query)
    (sql : String) :
    Tells start (statements ++ [sql]) events (opened + if start.failExecute then 0 else 1)
      (fun other => (Request.openRaw id q sql).follow start.failExecute other (life other))
      (Session.step (.openRaw id q sql) s).2 := by
  rw [step_openRaw, h.fails]
  have asked : Tells start _ _ _ life { s with store :=
      { s.store with statements := s.store.statements ++ [sql] } } :=
    h.onStore [sql] [] 0 rfl (by simp)
  cases hf : start.failExecute with
  | true => simpa [Request.follow] using asked
  | false =>
    have kept := asked.keep id q
    rw [← h.stream] at kept
    simpa [Request.follow] using kept

/-- A life that is at its end already is not followed any further. -/
theorem unfollowed (h : Tells start statements events opened life s) {id : String}
    (none_ : s.cursor? id = none) {r : Request}
    (other : ∀ i l, i ≠ id → r.follow start.failExecute i l = l)
    (here : r.follow start.failExecute id none = none) :
    (fun i => r.follow start.failExecute i (life i)) = life := by
  funext i
  by_cases ho : i = id
  · rw [ho, h.absent none_, here]
  · exact other i _ ho

/-- What is known of a session, carried through one request. -/
theorem step (h : Tells start statements events opened life s) (r : Request) :
    Tells start (statements ++ r.executed) (events ++ r.accepted)
      (opened + if start.failExecute then 0 else r.executed.length)
      (fun id => r.follow start.failExecute id (life id)) (Session.step r s).2 := by
  have unasked : Tells start (statements ++ []) (events ++ [])
      (opened + if start.failExecute then 0 else 0) life s := by
    simpa using h
  cases r with
  | openCursor id q => simpa [Request.executed, Request.accepted] using h.opened_query id q
  | openRaw id q sql => simpa [Request.executed, Request.accepted] using h.opened_raw id q sql
  | next id =>
    cases hc : s.cursor? id with
    | none =>
      rw [step_next_none s hc, h.unfollowed hc (by simp +contextual [Request.follow])
        (by simp [Request.follow])]
      exact unasked
    | some c =>
      rw [step_next_some s hc]
      simpa [Request.executed, Request.accepted, Request.follow] using h.pull hc
  | describe id =>
    rw [step_describe]
    exact unasked
  | close id =>
    rw [step_close]
    simpa [Request.executed, Request.accepted, Request.follow] using h.drop id
  | consume shape id =>
    cases hc : s.cursor? id with
    | none =>
      rw [step_consume_none s shape hc, h.unfollowed hc (by simp +contextual [Request.follow])
        (by simp [Request.follow])]
      exact unasked
    | some c =>
      rw [step_consume_some s shape hc]
      simpa [Request.executed, Request.accepted, Request.follow] using h.drop id
  | report shape q =>
    rw [← h.fails, step_report]
    refine h.onStore _ _ _ rfl ?_
    rw [onStore_store, run_eq]
    simp [Request.accepted]
  | drain sql =>
    rw [← h.fails, step_drain]
    exact h.onStore _ _ _ rfl (by simp [Request.executed, Request.accepted])
  | insert e =>
    rw [step_insert]
    cases hv : e.validate with
    | error flaw => simpa [Request.executed, Request.accepted, Request.follow, hv] using h
    | ok =>
      have stored : Tells start _ _ _ life
          { s with store := { s.store with events := s.store.events ++ [e] } } :=
        h.onStore [] [e] 0 rfl (by simp)
      simpa [Request.executed, Request.accepted, Request.follow, hv] using stored

/-- What is known of a session, carried through a list of requests. -/
theorem after (h : Tells start statements events opened life s) (requests : List Request) :
    Tells start (statements ++ requests.flatMap Request.executed)
      (events ++ requests.flatMap Request.accepted)
      (opened + if start.failExecute then 0 else (requests.flatMap Request.executed).length)
      (fun id => requests.foldl (Request.follow start.failExecute id) (life id))
      (s.after requests) := by
  induction requests generalizing s statements events opened life with
  | nil => simpa [Session.after] using h
  | cons r requests ih =>
    have later := ih (h.step r)
    have counts : (opened + if start.failExecute then 0 else r.executed.length) +
        (if start.failExecute then 0 else (requests.flatMap Request.executed).length) =
        opened + if start.failExecute then 0
          else ((r :: requests).flatMap Request.executed).length := by
      cases start.failExecute
      · simp only [Bool.false_eq_true, ↓reduceIte, List.flatMap_cons, List.length_append]
        omega
      · simp
    rw [counts, List.append_assoc, List.append_assoc] at later
    exact later

end Tells

theorem tells_scripted (rows : List (List Cell)) (failAfter : Option Nat) (failExecute : Bool) :
    Tells (.scripted rows failAfter failExecute) [] [] 0 (fun _ => none)
      (scripted rows failAfter failExecute) :=
  ⟨rfl, List.nodup_nil, rfl, fun _ => rfl⟩

private theorem dropAll_eq (names : List (String × Cursor)) (s : Session)
    (distinct : (s.cursors.map Prod.fst).Nodup) :
    let s' := (forIn (m := StateM Session) names PUnit.unit fun entry _ => do
      dropCursor entry.1
      pure (ForInStep.yield PUnit.unit)) s |>.2
    s'.cursors = s.cursors.filter (fun entry => entry.1 ∉ names.map Prod.fst) ∧
      s'.store.released + s'.cursors.length = s.store.released + s.cursors.length := by
  induction names generalizing s with
  | nil => exact ⟨(List.filter_eq_self.mpr (by simp)).symm, rfl⟩
  | cons entry names ih =>
    obtain ⟨left, balance⟩ := dropCursor_balance entry.1 distinct
    obtain ⟨others, later⟩ := ih (dropCursor entry.1 s).2 left
    simp only [List.forIn_cons, bind, StateT.bind]
    refine ⟨others.trans ?_, later.trans balance⟩
    rw [(dropCursor_eq entry.1 s).1, List.filter_filter]
    refine List.filter_congr fun other _ => ?_
    simp only [List.map_cons, List.mem_cons, not_or, Bool.decide_and, Bool.and_comm, ne_eq]

/-- Every cursor that is open gives its stream back at the end. -/
theorem finish_eq (s : Session) (distinct : (s.cursors.map Prod.fst).Nodup) :
    (finish s).2.cursors = [] ∧
      (finish s).2.store.released = s.store.released + s.cursors.length := by
  obtain ⟨cursors, balance⟩ := dropAll_eq s.cursors s distinct
  have none_left : (finish s).2.cursors = [] := by
    refine Eq.trans cursors ?_
    rw [List.filter_eq_nil_iff]
    intro entry hmem
    simp only [decide_eq_true_eq]
    exact fun absent => absent (List.mem_map_of_mem hmem)
  refine ⟨none_left, ?_⟩
  have : (finish s).2.store.released + (finish s).2.cursors.length =
    s.store.released + s.cursors.length := balance
  rwa [none_left, List.length_nil, Nat.add_zero] at this

/-- The history of every session. The statements are those its requests passed on, taken or not,
and a request that its query stops passes none on. Each stream is given back once: with its cursor,
at the end at the latest. The events are those that are valid, numbered as they came, and an invalid
one changes nothing. A cursor reads its own way along the script, whatever else was asked. -/
theorem after_history (rows : List (List Cell)) (failAfter : Option Nat) (failExecute : Bool)
    (requests : List Request) :
    let start := MemoryStore.scripted rows failAfter failExecute
    let s := (scripted rows failAfter failExecute).after requests
    let executed := requests.flatMap Request.executed
    (s.store.statements = executed ∧
      ∀ r e, s.answer r = .error (.report (.query e)) →
        (step r s).2.store.statements = s.store.statements) ∧
    (s.store.released + s.cursors.length = executed.countP start.takes ∧
      (s.cursors.map Prod.fst).Nodup ∧
      (finish s).2.cursors = [] ∧ (finish s).2.store.released = executed.countP start.takes) ∧
    (s.store.events = requests.flatMap Request.accepted ∧
      ∀ e : Event, match e.validate with
        | .ok () => s.answer (.insert e) = .ok (.inserted (s.store.events.length + 1))
        | .error flaw => s.answer (.insert e) = .error (.store (.invalidEvent flaw)) ∧
          (step (.insert e) s).2 = s) ∧
    ∀ id, match life failExecute requests id with
      | none => s.answer (.next id) = .error .noCursor ∧
        ∀ shape, s.answer (.consume shape id) = .error .noCursor
      | some (q, pulls) =>
        s.answer (.next id) = (match start.item? pulls with
          | none => .ok (.row none)
          | some item => ((Cursor.decodeItem q item).map fun row => .row (some row)).mapError .report) ∧
        ∀ shape, s.answer (.consume shape id) =
          ((Report.ofCursor shape ⟨q, start.stream.drop pulls⟩).map .report).mapError .report := by
  intro start s executed
  have told : Tells start executed (requests.flatMap Request.accepted)
      (executed.countP start.takes) (life failExecute requests) s := by
    have := (tells_scripted rows failAfter failExecute).after requests
    rw [List.nil_append, List.nil_append, Nat.zero_add, ← MemoryStore.countP_takes] at this
    exact this
  have statements : s.store.statements = executed := by rw [told.store]
  have events : s.store.events = requests.flatMap Request.accepted := by rw [told.store]
  refine ⟨⟨statements, ?_⟩, ⟨told.balance, told.distinct, ?_, ?_⟩, ⟨events, ?_⟩, ?_⟩
  · intro r e stopped
    have none_ := executed_of_query_error stopped
    rw [(told.step r).store, statements, none_, List.append_nil]
  · exact (finish_eq s told.distinct).1
  · rw [(finish_eq s told.distinct).2, told.balance]
  · intro e
    unfold answer
    rw [step_insert]
    cases e.validate with
    | error flaw => exact ⟨rfl, rfl⟩
    | ok => simp
  · intro id
    have here := told.cursor id
    cases hl : life failExecute requests id with
    | none =>
      rw [hl] at here
      refine ⟨?_, fun shape => ?_⟩
      · rw [answer, step_next_none s here]
      · rw [answer, step_consume_none s shape here]
    | some l =>
      obtain ⟨q, pulls⟩ := l
      rw [hl] at here
      refine ⟨?_, fun shape => ?_⟩
      · rw [answer, step_next_some s here, ← start.stream_getElem?]
        cases hd : start.stream.drop pulls with
        | nil =>
          have : start.stream[pulls]? = none := by simpa using hd
          simp [Cursor.next, hd, this, Except.map, Except.mapError]
        | cons item rest =>
          have : start.stream[pulls]? = some item := by
            rw [← Nat.add_zero pulls, ← List.getElem?_drop, hd]
            rfl
          simp only [Cursor.next, hd, this]
          cases Cursor.decodeItem q item <;> rfl
      · rw [answer, step_consume_some s shape here]

end Session
end Clickstream
