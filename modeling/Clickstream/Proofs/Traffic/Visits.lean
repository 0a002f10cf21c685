import Mathlib.Data.List.Chain
import Clickstream.Proofs.Traffic.Draw

/-! The visits of a plan: who makes them, and when. The visits of one visitor follow each other at one to
31 days, in the order they are made in; those of different visitors are in no order. -/
namespace Clickstream
open Draw

/-- The first visit of a visitor falls in the window of the plan. -/
structure Plan.Begins (p : Plan) (visitor : Nat) (v : Visit) : Prop where
  visitor : v.visitor = visitor
  agent : v.agent ∈ Storefront.agents
  regular : v.start.Regular
  from_ : p.start.nanos ≤ v.start.nanos
  until_ : v.start.nanos < p.stop.nanos

/-- The next visit of the same visitor, one to 31 days after the start of this one. -/
structure Visit.Returns (v w : Visit) : Prop where
  visitor : w.visitor = v.visitor
  clientId : w.clientId = v.clientId
  agent : w.agent = v.agent
  regular : w.start.Regular
  from_ : v.start.nanos + Traffic.day * 1000000 ≤ w.start.nanos
  until_ : w.start.nanos < v.start.nanos + 31 * Traffic.day * 1000000

namespace Traffic

theorem firstVisit_begins {p : Plan} (regular : p.start.Regular) (regular' : p.stop.Regular)
    (visitor : Nat) : Yields (firstVisit p visitor) (p.Begins visitor) := by
  have window := (Instant.before_iff regular regular').mp p.window
  refine (timeBetween_yields regular regular' window).bind fun start inside => ?_
  obtain ⟨startRegular, from_, until_⟩ := inside
  refine (Yields.anything _).bind fun clientId _ => (Yields.pick _).bind fun agent among => ?_
  exact (Yields.anything _).bind fun sessionId _ => .pure ⟨rfl, among, startRegular, from_, until_⟩

theorem returnVisit_returns {v : Visit} (regular : v.start.Regular) :
    Yields (returnVisit v) v.Returns := by
  refine (later_yields regular day).bind fun earliest ⟨regular', from_⟩ => ?_
  refine (later_yields regular (31 * day)).bind fun latest ⟨regular'', until_⟩ => ?_
  have window : earliest.nanos < latest.nanos := by
    rw [from_, until_, day, minute]
    omega
  refine (timeBetween_yields regular' regular'' window).bind fun start inside => ?_
  obtain ⟨startRegular, after, before⟩ := inside
  refine (Yields.anything _).bind fun sessionId _ => .pure ⟨rfl, rfl, rfl, startRegular, ?_, ?_⟩
  · rwa [from_] at after
  · rw [until_] at before
    push_cast at before
    exact before

/-- The visits made so far: the first ones of all visitors in order, and those that return. -/
structure Kept (p : Plan) (first : List Visit) (latest visits : Array Visit) : Prop where
  begins : ∀ i v, first[i]? = some v → p.Begins i v
  front : first <+: visits.toList
  regular : ∀ v ∈ visits.toList, v.start.Regular
  same : ∀ v ∈ visits.toList, ∃ u, first[v.visitor]? = some u ∧
    v.clientId = u.clientId ∧ v.agent = u.agent
  size : latest.size = first.length
  /-- The last visit of each visitor is kept apart. -/
  last : ∀ k v, latest[k]? = some v →
    (visits.toList.filter fun w => w.visitor == k).getLast? = some v
  chained : ∀ k, (visits.toList.filter fun w => w.visitor == k).IsChain Visit.Returns

private theorem getElem?_concat {α : Type} {items : List α} {new a : α} {i : Nat}
    (there : (items ++ [new])[i]? = some a) : items[i]? = some a ∨ i = items.length ∧ a = new := by
  rcases Nat.lt_or_ge i items.length with inside | beyond
  · exact .inl (by rwa [List.getElem?_append_left inside] at there)
  · rw [List.getElem?_append_right beyond, List.getElem?_singleton] at there
    split at there
    · exact .inr ⟨by omega, (Option.some.inj there).symm⟩
    · cases there

private theorem filter_first {first : List Visit}
    (inOrder : ∀ (i : Nat) (v : Visit), first[i]? = some v → v.visitor = i) (k : Nat) :
    first.filter (fun w => w.visitor == k) = first[k]?.toList := by
  induction first using List.reverseRecOn with
  | nil => rfl
  | append_singleton first v ih =>
    have visitor : v.visitor = first.length := inOrder _ v (by simp)
    have earlier := ih fun i w there => inOrder i w (by
      rw [List.getElem?_append_left (List.getElem?_eq_some_iff.mp there).1, there])
    rw [List.filter_append, earlier]
    rcases Nat.lt_trichotomy k first.length with inside | rfl | beyond
    · simp [List.getElem?_append_left inside, visitor, Nat.ne_of_gt inside]
    · simp [visitor]
    · have outside : (first ++ [v]).length ≤ k := by rwa [List.length_append]
      rw [List.getElem?_eq_none outside, List.getElem?_eq_none (Nat.le_of_lt beyond)]
      simp [visitor, Nat.ne_of_lt beyond]

theorem firstVisits_size (p : Plan) (n : Nat) (visits : Array Visit) :
    Yields (firstVisits p visits n) fun out => out.size = visits.size + n := by
  induction n generalizing visits with
  | zero => exact .pure rfl
  | succ n ih =>
    refine (Yields.anything _).bind fun v _ => (ih (visits.push v)).weaken fun out size => ?_
    rw [size, Array.size_push]
    omega

theorem firstVisits_begin {p : Plan} (regular : p.start.Regular) (regular' : p.stop.Regular)
    (n : Nat) (visits : Array Visit) (begins : ∀ i v, visits.toList[i]? = some v → p.Begins i v) :
    Yields (firstVisits p visits n) fun out => ∀ i v, out.toList[i]? = some v → p.Begins i v := by
  induction n generalizing visits with
  | zero => exact .pure begins
  | succ n ih =>
    refine (firstVisit_begins regular regular' visits.size).bind fun v first => ?_
    refine ih (visits.push v) fun i w there => ?_
    rw [Array.toList_push] at there
    rcases getElem?_concat there with earlier | ⟨rfl, rfl⟩
    · exact begins i w earlier
    · exact first

theorem Kept.start {p : Plan} {first : Array Visit}
    (begins : ∀ i v, first.toList[i]? = some v → p.Begins i v) :
    Kept p first.toList first first := by
  have alone := filter_first fun i v there => (begins i v there).visitor
  have placed {v : Visit} (there : v ∈ first.toList) : ∃ i, first.toList[i]? = some v ∧ p.Begins i v := by
    obtain ⟨i, here⟩ := List.mem_iff_getElem?.mp there
    exact ⟨i, here, begins i v here⟩
  refine ⟨begins, List.prefix_rfl, fun v there => ?_, fun v there => ?_, by simp, fun k v there => ?_,
    fun k => ?_⟩
  · obtain ⟨i, -, began⟩ := placed there
    exact began.regular
  · obtain ⟨i, here, began⟩ := placed there
    exact ⟨v, by rw [began.visitor, here], rfl, rfl⟩
  · rw [alone, Array.getElem?_toList, there]
    rfl
  · rw [alone]
    cases first.toList[k]? <;> simp

theorem Kept.last_mem {p : Plan} {first : List Visit} {latest visits : Array Visit}
    (kept : Kept p first latest visits) {k : Nat} {v : Visit} (there : latest[k]? = some v) :
    v ∈ visits.toList ∧ v.visitor = k := by
  simpa using List.mem_of_getLast? (kept.last k v there)

/-- A visitor who returns has a new last visit; the visits of the others stay as they are. -/
theorem Kept.push {p : Plan} {first : List Visit} {latest visits : Array Visit}
    (kept : Kept p first latest visits) {k : Nat} (hk : k < latest.size) {w : Visit}
    (returns : latest[k].Returns w) : Kept p first (latest.set k w) (visits.push w) := by
  have there : latest[k]? = some latest[k] := Array.getElem?_eq_getElem hk
  obtain ⟨among, owner⟩ := kept.last_mem there
  have visitor : w.visitor = k := returns.visitor.trans owner
  have last := kept.last k _ there
  have grown (j : Nat) : (visits.push w).toList.filter (fun w => w.visitor == j) =
      visits.toList.filter (fun w => w.visitor == j) ++ if k = j then [w] else [] := by
    by_cases same : k = j <;> simp [List.filter_append, visitor, same]
  refine ⟨kept.begins, kept.front.trans (by simp), fun v there => ?_, fun v there => ?_,
    by rw [Array.size_set, kept.size], fun j v there => ?_, fun j => ?_⟩
  · rw [Array.toList_push, List.mem_append, List.mem_singleton] at there
    rcases there with there | rfl
    · exact kept.regular v there
    · exact returns.regular
  · rw [Array.toList_push, List.mem_append, List.mem_singleton] at there
    rcases there with there | rfl
    · exact kept.same v there
    · obtain ⟨u, here, clientId, agent⟩ := kept.same _ among
      exact ⟨u, by rw [returns.visitor, here], returns.clientId.trans clientId,
        returns.agent.trans agent⟩
  · rw [grown]
    by_cases same : k = j
    · subst same
      rw [Array.getElem?_set_self hk] at there
      simpa using there
    · rw [Array.getElem?_set_ne hk same] at there
      simpa [same] using kept.last j v there
  · rw [grown]
    by_cases same : k = j
    · subst same
      rw [if_pos rfl, List.isChain_append]
      refine ⟨kept.chained k, .singleton _, fun v here u there => ?_⟩
      rw [last] at here
      obtain rfl := Option.some.inj here
      obtain rfl := Option.some.inj there
      exact returns
    · rw [if_neg same, List.append_nil]
      exact kept.chained j

theorem returnVisits_size (n : Nat) (latest visits : Array Visit) :
    Yields (returnVisits latest visits n) fun out => out.size = visits.size + n := by
  induction n generalizing latest visits with
  | zero => exact .pure rfl
  | succ n ih =>
    refine (Yields.anything _).bind fun k _ => (Yields.anything _).bind fun v _ => ?_
    refine (ih (latest.set k v) (visits.push v)).weaken fun out size => ?_
    rw [size, Array.size_push]
    omega

theorem returnVisits_kept {p : Plan} {first : List Visit} (n : Nat) (latest visits : Array Visit)
    (kept : Kept p first latest visits) :
    Yields (returnVisits latest visits n) fun out => ∃ latest, Kept p first latest out := by
  induction n generalizing latest visits with
  | zero => exact .pure ⟨latest, kept⟩
  | succ n ih =>
    refine (Yields.anything _).bind fun visitor _ => ?_
    obtain ⟨among, -⟩ := kept.last_mem (Array.getElem?_eq_getElem visitor.isLt)
    refine (returnVisit_returns (kept.regular _ among)).bind fun v returns => ?_
    exact ih _ _ (kept.push visitor.isLt returns)

end Traffic

/-- A plan has as many visits as it says, whatever instants it begins and ends with. -/
theorem Plan.visits_size (p : Plan) : Yields p.visits fun visits => visits.size = p.sessionCount := by
  refine (Traffic.firstVisits_size p p.users #[]).bind fun first size => ?_
  refine (Traffic.returnVisits_size _ first first).weaken fun visits size' => ?_
  have users : p.users ≤ p.sessionCount := Nat.le_max_right ..
  rw [size', size, List.size_toArray, List.length_nil]
  omega

/-- The visits of a plan. -/
theorem Plan.visits_kept {p : Plan} (regular : p.start.Regular) (regular' : p.stop.Regular) :
    Yields p.visits fun visits => visits.size = p.sessionCount ∧
      ∃ first latest, first.length = p.users ∧ Traffic.Kept p first latest visits := by
  refine p.visits_size.both ?_
  refine ((Traffic.firstVisits_size p p.users #[]).both
    (Traffic.firstVisits_begin regular regular' p.users #[] (by simp))).bind fun first => ?_
  rintro ⟨size, begins⟩
  refine (Traffic.returnVisits_kept _ first first (.start begins)).weaken fun visits => ?_
  rintro ⟨latest, kept⟩
  exact ⟨_, latest, by simp [size], kept⟩

end Clickstream
