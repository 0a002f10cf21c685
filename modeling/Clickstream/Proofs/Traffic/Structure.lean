import Clickstream.Proofs.Outcome
import Clickstream.Proofs.Traffic.Events

/-! The structure of the traffic that is generated for a plan, from whatever source: how many visits and
events there are, whose they are, and when they happen. That generation ends is not asserted: the source
may have too few words, and a visitor who returns too often leaves the calendar. -/
namespace Clickstream

/-- Every plan is made of its own configuration, and of no other. -/
theorem Plan.ofConfig_eq_ok {c : TrafficConfig} {p : Plan} :
    Plan.ofConfig c = .ok p ↔ p.toTrafficConfig = c := by
  constructor
  · intro made
    unfold Plan.ofConfig at made
    split at made
    · split at made
      · split at made
        · rw [← Except.ok.inj made]
        · cases made
      · cases made
    · cases made
  · rintro rfl
    rw [Plan.ofConfig, dif_pos p.users_pos, dif_pos ⟨p.sessions_atLeast, p.events_atLeast⟩,
      dif_pos p.window]

/-- One who visits the storefront. -/
structure Visitor where
  clientId : String
  agent : Storefront.Agent

/-- Visits in the order they are made in: each visitor comes once within the window of the plan, one
after the other, and then the visitors return. -/
structure Plan.Visited (p : Plan) (visitors : List Visitor) (visits : List Visit) : Prop where
  users : visitors.length = p.users
  agents : ∀ u ∈ visitors, u.agent ∈ Storefront.agents
  count : visits.length = p.sessionCount
  regular : ∀ v ∈ visits, v.start.Regular
  owned : ∀ v ∈ visits, visitors[v.visitor]? = some ⟨v.clientId, v.agent⟩
  begins : ∀ i v, i < p.users → visits[i]? = some v → p.Begins i v
  returns : ∀ k, (visits.filter fun v => v.visitor == k).IsChain Visit.Returns

theorem Traffic.Kept.visited {p : Plan} {first : List Visit} {latest visits : Array Visit}
    (kept : Kept p first latest visits) (users : first.length = p.users)
    (size : visits.size = p.sessionCount) :
    p.Visited (first.map fun v => ⟨v.clientId, v.agent⟩) visits.toList := by
  refine ⟨by simp [users], fun u among => ?_, by simp [size], kept.regular, fun v among => ?_,
    fun i v inside there => kept.begins i v ?_, kept.chained⟩
  · obtain ⟨v, there, rfl⟩ := List.mem_map.mp among
    obtain ⟨i, here⟩ := List.mem_iff_getElem?.mp there
    exact (kept.begins i v here).agent
  · obtain ⟨u, there, clientId, agent⟩ := kept.same v among
    simp [there, clientId, agent]
  · obtain ⟨rest, grown⟩ := kept.front
    rwa [← grown, List.getElem?_append_left (users.symm ▸ inside)] at there

/-- Every visit opens with an event, and all further events happen in one of the visits. -/
theorem Plan.generate_structured {p : Plan} {source : RandomSource} {events : List Event}
    (regular : p.start.Regular) (regular' : p.stop.Regular)
    (generated : p.generate source = .ok events) :
    p.users ≤ p.sessionCount ∧ p.sessionCount ≤ p.eventCount ∧ events.length = p.eventCount ∧
    ∃ (visitors : List Visitor) (visits : List Visit) (visitOf : Nat → Nat),
      p.Visited visitors visits ∧
      ∀ i e, events[i]? = some e → ∃ v, visits[visitOf i]? = some v ∧
        (i < p.sessionCount → visitOf i = i ∧ v.Opens e) ∧ (p.sessionCount ≤ i → v.Holds e) := by
  have sessions : p.sessionCount ≤ p.eventCount := Nat.le_max_right ..
  obtain ⟨⟨_, used⟩, drawn, rfl⟩ := map_eq_ok.mp generated
  obtain ⟨visits, first, latest, ⟨size, users, kept⟩, views, others, rfl, opens, length, hold⟩ :=
    Plan.events_of_visits regular regular' source 0 _ used drawn
  have viewed : views.length = p.sessionCount := by rw [← opens.length_eq, Array.length_toList, size]
  have placed (i : Nat) : ∃ j, ∀ e, (views ++ others)[i]? = some e →
      ∃ v, visits.toList[j]? = some v ∧ (i < p.sessionCount → j = i ∧ v.Opens e) ∧
        (p.sessionCount ≤ i → v.Holds e) := by
    rcases Nat.lt_or_ge i p.sessionCount with inside | beyond
    · refine ⟨i, fun e there => ?_⟩
      rw [List.getElem?_append_left (viewed.symm ▸ inside)] at there
      obtain ⟨hi, rfl⟩ := List.getElem?_eq_some_iff.mp there
      have hi' : i < visits.toList.length := by rwa [opens.length_eq]
      exact ⟨_, List.getElem?_eq_getElem hi', fun _ => ⟨rfl, opens.get hi' hi⟩,
        fun beyond => absurd inside (Nat.not_lt.mpr beyond)⟩
    · rw [List.getElem?_append_right (viewed.symm ▸ beyond)]
      cases here : others[i - views.length]? with
      | none => exact ⟨0, by simp⟩
      | some e =>
        obtain ⟨v, among, holds⟩ := hold e (List.mem_of_getElem? here)
        obtain ⟨j, there⟩ := List.mem_iff_getElem?.mp (Array.mem_toList_iff.mpr among)
        refine ⟨j, ?_⟩
        rintro _ ⟨⟩
        exact ⟨v, there, fun inside => absurd inside (Nat.not_lt.mpr beyond), fun _ => holds⟩
  choose visitOf assigned using placed
  refine ⟨Nat.le_max_right .., sessions, ?_, _, visits.toList, visitOf, kept.visited users size,
    assigned⟩
  rw [List.length_append, viewed, length]
  omega

/-- Two visitors, who come three times and do five things. -/
def Plan.small : Plan where
  users := 2
  sessionsPerUser := .round false 3 2
  eventsPerSession := .round false 7 4
  start := .startOf2023
  stop := .endOf2023
  users_pos := by decide
  sessions_atLeast := by decide
  events_atLeast := by decide
  window := by decide

/-- A hundred words are enough for them. -/
theorem Plan.small_structured : ∃ events, Plan.small.generate (.scripted #[] 7 100) = .ok events ∧
    events.length = 5 ∧ ∃ (visitors : List Visitor) (visits : List Visit) (visitOf : Nat → Nat),
      Plan.small.Visited visitors visits ∧ visits.length = 3 ∧
      ∀ i e, events[i]? = some e → ∃ v, visits[visitOf i]? = some v ∧
        (i < 3 → visitOf i = i ∧ v.Opens e) ∧ (3 ≤ i → v.Holds e) := by
  have sessions : Plan.small.sessionCount = 3 := by decide +kernel
  have count : Plan.small.eventCount = 5 := by decide +kernel
  have ends : (Plan.small.generate (.scripted #[] 7 100)).toOption.isSome := by decide +kernel
  cases generated : Plan.small.generate (.scripted #[] 7 100) with
  | error fault => simp [generated, Except.toOption] at ends
  | ok events =>
    obtain ⟨-, -, length, visitors, visits, visitOf, visited, assigned⟩ :=
      Plan.generate_structured (by decide) (by decide) generated
    rw [sessions] at assigned
    exact ⟨events, rfl, length.trans count, visitors, visits, visitOf, visited,
      visited.count.trans sessions, assigned⟩

end Clickstream
