import Clickstream.Proofs.Traffic.Draw
import Clickstream.Proofs.Traffic.Words

/-! Which plans can run past the end of the calendar. Later visits follow each other, and a source may
give them all to one visitor, each as late as it can be; how far such a chain reaches is what counts. -/
namespace Clickstream
open Draw Storefront

namespace Draw
variable {α β : Type} {d : Draw α} {next : α → Draw β} {P P' : α → Prop} {Q : β → Prop}

/-- From any place in any source, values with this property are drawn and the calendar is not left. The
source may be exhausted. -/
def Stays (d : Draw α) (P : α → Prop) : Prop :=
  Yields d P ∧ ∀ source used, d source used ≠ .error .outOfCalendar

namespace Stays

theorem pure {a : α} (holds : P a) : Stays (Pure.pure a) P := by
  refine ⟨.pure holds, fun source used left => ?_⟩
  cases left

theorem bind (first : Stays d P) (later : ∀ a, P a → Stays (next a) Q) : Stays (d >>= next) Q := by
  refine ⟨first.1.bind fun a holds => (later a holds).1, fun source used => ?_⟩
  simp only [Bind.bind, ReaderT.bind, StateT.bind]
  cases drawn : d source used with
  | error fault =>
    have stayed := first.2 source used
    rw [drawn] at stayed
    exact fun left => stayed (Except.error.inj left ▸ rfl)
  | ok outcome => exact (later _ (first.1 _ _ _ _ drawn)).2 _ _

theorem weaken (stays : Stays d P) (implies : ∀ a, P a → P' a) : Stays d P' :=
  ⟨stays.1.weaken implies, stays.2⟩

theorem word : Stays Draw.word fun _ => True := by
  refine ⟨.anything _, fun source used left => ?_⟩
  unfold Draw.word at left
  split at left <;> cases left

/-- The search for a share ends with one or with the source. -/
theorem below (width n : Nat) : Stays (Draw.below width n) fun _ => True := by
  refine ⟨.anything _, fun source used left => ?_⟩
  unfold Draw.below at left
  generalize source.count - used = fuel at left
  induction fuel generalizing used with
  | zero => cases left
  | succ fuel ih =>
    rw [search] at left
    split at left
    · cases left
    · exact ih (used + 1) left

theorem unit : Stays Draw.unit fun _ => True := word.bind fun _ _ => .pure trivial

theorem pick (items : Array α) : Stays (Draw.pick items) (· ∈ items) :=
  (below _ _).bind fun _ _ => .pure (Array.getElem_mem _)

end Stays
end Draw

namespace Traffic
open Instant
variable {start stop t : Instant} {millis : Nat}

theorem later_eq_pure (fits : t.base + millis * 1000000 < calendarEnd) :
    ∃ u, later t millis = pure u ∧ u.base = t.base + millis * 1000000 ∧
      (t.Regular ∨ 1000 ≤ millis → u.Regular) := by
  obtain ⟨u, added, same, regular⟩ := addMillis?_fits fits
  exact ⟨u, by rw [later, added]; rfl, same, regular⟩

theorem later_eq_fail (past : calendarEnd ≤ t.base + millis * 1000000) :
    later t millis = fail .outOfCalendar := by
  rw [later, addMillis?_past past]
  rfl

/-- The last millisecond of a span, counted from its start. -/
def spread (start stop : Instant) : Nat := (stop.millisSince start).toNat - 1

theorem spread_le (regular : stop.Regular) (ordered : start.base ≤ stop.base) :
    start.base + spread start stop * 1000000 ≤ stop.base := by
  have millis : stop.millisSince start ≤ (stop.base - start.base).tdiv 1000000 :=
    Int.tdiv_le_tdiv (by decide) (nanosSince_le regular)
  rw [Int.tdiv_eq_ediv_of_nonneg (by omega)] at millis
  unfold spread
  omega

theorem timeBetween_stays (fits : start.base + spread start stop * 1000000 < calendarEnd) :
    Stays (timeBetween start stop) fun t => t.base ≤ start.base + spread start stop * 1000000 := by
  unfold timeBetween
  dsimp only
  split
  · exact .pure (by omega)
  · refine (Stays.below _ _).bind fun ⟨k, inside⟩ _ => ?_
    have within : k ≤ spread start stop := Nat.le_sub_one_of_lt inside
    obtain ⟨t, drawn, same, -⟩ := @later_eq_pure start k (by omega)
    rw [drawn]
    exact .pure (by omega)

private theorem below_spread (lasts : ¬stop.millisSince start ≤ 0) :
    ∃ k : Fin (stop.millisSince start).toNat, k = spread start stop ∧ Can (below 64 _) (.ok k) := by
  have inside : spread start stop < (stop.millisSince start).toNat := by
    unfold spread
    omega
  exact ⟨⟨_, inside⟩, rfl, below_any (millisSince_toNat_le stop start) _⟩

theorem timeBetween_last (fits : start.base + spread start stop * 1000000 < calendarEnd) :
    ∃ t, Can (timeBetween start stop) (.ok t) ∧ t.base = start.base + spread start stop * 1000000 := by
  obtain ⟨t, drawn, same, -⟩ := later_eq_pure fits
  unfold timeBetween
  dsimp only
  split
  case isTrue empty =>
    have none_ : spread start stop = 0 := by
      unfold spread
      omega
    exact ⟨start, .pure start, by rw [none_]; omega⟩
  case isFalse lasts =>
    obtain ⟨k, last, can⟩ := below_spread lasts
    exact ⟨t, can.bind (by rw [last, drawn]; exact .pure t), same⟩

theorem timeBetween_leaves (past : calendarEnd ≤ start.base + spread start stop * 1000000) :
    Can (timeBetween start stop) (.error .outOfCalendar) := by
  have inside := start.base_lt
  unfold timeBetween
  dsimp only
  split
  case isTrue empty =>
    unfold spread at past
    omega
  case isFalse lasts =>
    obtain ⟨k, last, can⟩ := below_spread lasts
    exact can.bind (by rw [last, later_eq_fail past]; exact .fail _)

theorem identifier_stays (text : String) (t : Instant) : Stays (identifier text t) fun _ => True :=
  (Stays.below _ _).bind fun _ _ => .pure trivial

theorem identifier_can (text : String) (t : Instant) : ∃ id, Can (identifier text t) (.ok id) :=
  ⟨_, (below_zero (by decide)).bind (.pure _)⟩

end Traffic

/-- The latest time at which a visitor can come first. -/
def Plan.lastStart (p : Plan) : Int := p.start.base + Traffic.spread p.start p.stop * 1000000

namespace Traffic
open Instant

section Visits
variable {p : Plan} {v : Visit}

theorem firstVisit_stays (fits : p.lastStart < calendarEnd) (visitor : Nat) :
    Stays (firstVisit p visitor) fun v => v.start.base ≤ p.lastStart := by
  refine (timeBetween_stays fits).bind fun start bound => ?_
  refine (identifier_stays _ start).bind fun clientId _ => (Stays.pick _).bind fun agent _ => ?_
  exact (identifier_stays _ start).bind fun sessionId _ => .pure bound

theorem firstVisit_last (fits : p.lastStart < calendarEnd) (visitor : Nat) :
    ∃ v, Can (firstVisit p visitor) (.ok v) ∧ v.start.base = p.lastStart := by
  obtain ⟨start, drawn, last⟩ := timeBetween_last fits
  obtain ⟨clientId, named⟩ := identifier_can "GA4CT.CID." start
  obtain ⟨sessionId, named'⟩ := identifier_can "GA4CT.SID." start
  have agent : 0 < agents.size := by decide
  exact ⟨_, drawn.bind (named.bind ((pick_first agent).bind (named'.bind (.pure _)))), last⟩

theorem firstVisit_leaves (past : calendarEnd ≤ p.lastStart) (visitor : Nat) :
    Can (firstVisit p visitor) (.error .outOfCalendar) :=
  (timeBetween_leaves past).stop

/-- The milliseconds from the start of a visit to the latest start of the next one. -/
def stride : Nat := 31 * day - 1

theorem stride_succ : stride + 1 = 31 * day := rfl

private theorem returnWindow (fits : v.start.base + (31 * day : Nat) * 1000000 < calendarEnd) :
    ∃ earliest latest, later v.start day = pure earliest ∧
      later v.start (31 * day) = pure latest ∧
      earliest.base + spread earliest latest * 1000000 = v.start.base + stride * 1000000 := by
  obtain ⟨earliest, from_, begins, regular⟩ := @later_eq_pure v.start day (by omega)
  obtain ⟨latest, until_, ends, regular'⟩ := later_eq_pure fits
  have earliestRegular : earliest.Regular := regular (.inr (by decide))
  have latestRegular : latest.Regular := regular' (.inr (by decide))
  refine ⟨earliest, latest, from_, until_, ?_⟩
  have span : latest.nanosSince earliest = (30 * day * 1000000 : Nat) := by
    rw [nanosSince_eq latestRegular earliestRegular, ← base_eq latestRegular,
      ← base_eq earliestRegular, begins, ends]
    omega
  have millis : spread earliest latest = 30 * day - 1 := by
    rw [spread, millisSince, span]
    rfl
  rw [begins, millis, stride, day, minute]
  omega

theorem returnVisit_stays (fits : v.start.base + (31 * day : Nat) * 1000000 < calendarEnd) :
    Stays (returnVisit v) fun w => w.start.base ≤ v.start.base + stride * 1000000 := by
  obtain ⟨earliest, latest, from_, until_, last⟩ := returnWindow fits
  have inside : earliest.base + spread earliest latest * 1000000 < calendarEnd := by
    rw [last, stride]
    omega
  unfold returnVisit
  rw [from_, until_, pure_bind, pure_bind]
  refine (timeBetween_stays inside).bind fun start bound => ?_
  exact (identifier_stays _ start).bind fun sessionId _ => .pure (last ▸ bound)

theorem returnVisit_last (fits : v.start.base + (31 * day : Nat) * 1000000 < calendarEnd) :
    ∃ w, Can (returnVisit v) (.ok w) ∧ w.start.base = v.start.base + stride * 1000000 := by
  obtain ⟨earliest, latest, from_, until_, last⟩ := returnWindow fits
  have inside : earliest.base + spread earliest latest * 1000000 < calendarEnd := by
    rw [last, stride]
    omega
  obtain ⟨start, drawn, same⟩ := timeBetween_last inside
  obtain ⟨sessionId, named⟩ := identifier_can "GA4CT.SID." start
  unfold returnVisit
  rw [from_, until_, pure_bind, pure_bind]
  exact ⟨_, drawn.bind (named.bind (.pure _)), same.trans last⟩

theorem returnVisit_leaves (past : calendarEnd ≤ v.start.base + (31 * day : Nat) * 1000000) :
    Can (returnVisit v) (.error .outOfCalendar) := by
  unfold returnVisit
  rw [later_eq_fail past]
  rcases Int.lt_or_le (v.start.base + day * 1000000) calendarEnd with inside | outside
  · obtain ⟨earliest, from_, -⟩ := later_eq_pure inside
    rw [from_, pure_bind]
    exact (Can.fail _).stop
  · rw [later_eq_fail outside]
    exact (Can.fail _).stop

theorem firstVisits_stays (fits : p.lastStart < calendarEnd) (n : Nat) (visits : Array Visit)
    (bounded : ∀ v ∈ visits, v.start.base ≤ p.lastStart) :
    Stays (firstVisits p visits n) fun out => ∀ v ∈ out, v.start.base ≤ p.lastStart := by
  induction n generalizing visits with
  | zero => exact .pure bounded
  | succ n ih =>
    refine (firstVisit_stays fits visits.size).bind fun v bound => ih (visits.push v) fun w among => ?_
    rcases Array.mem_push.mp among with among | rfl
    · exact bounded w among
    · exact bound

/-- All visitors may come first as late as they can. -/
theorem firstVisits_last (fits : p.lastStart < calendarEnd) (n : Nat) (visits : Array Visit)
    (last : ∀ v ∈ visits, v.start.base = p.lastStart) :
    ∃ out, Can (firstVisits p visits n) (.ok out) ∧ out.size = visits.size + n ∧
      ∀ v ∈ out, v.start.base = p.lastStart := by
  induction n generalizing visits with
  | zero => exact ⟨visits, .pure _, rfl, last⟩
  | succ n ih =>
    obtain ⟨v, drawn, same⟩ := firstVisit_last fits visits.size
    obtain ⟨out, rest, size, last'⟩ := ih (visits.push v) fun w among => by
      rcases Array.mem_push.mp among with among | rfl
      · exact last w among
      · exact same
    refine ⟨out, drawn.bind rest, ?_, last'⟩
    rw [size, Array.size_push]
    omega

variable {bound : Int} {latest visits : Array Visit} {n : Nat}

/-- However the returning visits are spread over the visitors, none starts later than a chain of them all. -/
theorem returnVisits_stays (inLatest : ∀ v ∈ latest, v.start.base ≤ bound)
    (inVisits : ∀ v ∈ visits, v.start.base ≤ bound)
    (fits : n = 0 ∨ bound + (n * stride + 1 : Nat) * 1000000 < calendarEnd) :
    Stays (returnVisits latest visits n) fun out =>
      ∀ v ∈ out, v.start.base ≤ bound + (n * stride : Nat) * 1000000 := by
  induction n generalizing bound latest visits with
  | zero => exact .pure (by simpa using inVisits)
  | succ n ih =>
    have room := fits.resolve_left (Nat.succ_ne_zero n)
    rw [Nat.succ_mul] at room ⊢
    refine (Stays.below _ _).bind fun visitor _ => ?_
    have before : latest[visitor].start.base ≤ bound := inLatest _ (Array.getElem_mem visitor.isLt)
    have inside : latest[visitor].start.base + (31 * day : Nat) * 1000000 < calendarEnd := by
      rw [← stride_succ]
      omega
    refine (returnVisit_stays inside).bind fun w after => ?_
    have next : w.start.base ≤ bound + stride * 1000000 := by omega
    refine (@ih (bound + stride * 1000000) (latest.set visitor w) (visits.push w) ?_ ?_ ?_).weaken ?_
    · intro v among
      rcases Array.mem_or_eq_of_mem_set among with among | rfl
      · exact Int.le_trans (inLatest v among) (by omega)
      · exact next
    · intro v among
      rcases Array.mem_push.mp among with among | rfl
      · exact Int.le_trans (inVisits v among) (by omega)
      · exact next
    · exact .inr (by omega)
    · intro out all v among
      have least := all v among
      omega

theorem returnVisits_last (fits : bound + (n * stride + 1 : Nat) * 1000000 < calendarEnd)
    (some_ : 0 < latest.size) (here : latest[0].start.base = bound)
    (end_ : visits.back?.map (·.start.base) = some bound) :
    ∃ out, Can (returnVisits latest visits n) (.ok out) ∧ out.size = visits.size + n ∧
      out.back?.map (·.start.base) = some (bound + (n * stride : Nat) * 1000000) := by
  induction n generalizing bound latest visits with
  | zero => exact ⟨visits, .pure _, rfl, by simpa using end_⟩
  | succ n ih =>
    rw [Nat.succ_mul] at fits ⊢
    have inside : latest[0].start.base + (31 * day : Nat) * 1000000 < calendarEnd := by
      rw [here, ← stride_succ]
      omega
    obtain ⟨w, drawn, after⟩ := returnVisit_last inside
    rw [here] at after
    obtain ⟨out, rest, size, last⟩ := @ih (bound + stride * 1000000) (latest.set 0 w) (visits.push w)
      (by omega) (by rwa [Array.size_set]) (by rwa [Array.getElem_set_self])
      (by rw [Array.back?_push, Option.map_some, after])
    refine ⟨out, (below_zero some_).bind (drawn.bind rest), ?_, ?_⟩
    · rw [size, Array.size_push]
      omega
    · rw [last]
      congr 1
      omega

theorem returnVisits_leaves (past : calendarEnd ≤ bound + ((n + 1) * stride + 1 : Nat) * 1000000)
    (some_ : 0 < latest.size) (here : latest[0].start.base = bound) :
    Can (returnVisits latest visits (n + 1)) (.error .outOfCalendar) := by
  induction n generalizing bound latest visits with
  | zero =>
    rw [Nat.zero_add, Nat.one_mul, stride_succ, ← here] at past
    exact (below_zero some_).bind (returnVisit_leaves past).stop
  | succ n ih =>
    refine (below_zero some_).bind ?_
    rcases Int.lt_or_le (latest[0].start.base + (31 * day : Nat) * 1000000) calendarEnd with
      inside | outside
    · obtain ⟨w, drawn, after⟩ := returnVisit_last inside
      rw [here] at after
      rw [Nat.succ_mul] at past
      exact drawn.bind (@ih (bound + stride * 1000000) _ _ (by omega) (by rwa [Array.size_set])
        (by rwa [Array.getElem_set_self]))
    · exact (returnVisit_leaves outside).stop

end Visits

section Events
variable {visits : Array Visit}

theorem landing_stays (v : Visit) : Stays (landing v) fun _ => True := by
  refine (Stays.pick _).bind fun page _ => (Stays.pick _).bind fun channel _ => ?_
  exact (Stays.pick _).bind fun referrer _ => (Stays.pick _).bind fun query _ => .pure trivial

theorem landing_can (v : Visit) : ∃ e, Can (landing v) (.ok e) := by
  have page : 0 < pages.size := by decide
  have channel : 0 < channels.size := by decide
  have referrer : 0 < channels[0].referrers.size := by decide +revert
  have query : 0 < channels[0].queries.size := by decide +revert
  exact ⟨_, (pick_first page).bind ((pick_first channel).bind
    ((pick_first referrer).bind ((pick_first query).bind (.pure _))))⟩

theorem landings_stays (visits : List Visit) (events : Array Event) :
    Stays (landings events visits) fun _ => True := by
  induction visits generalizing events with
  | nil => exact .pure trivial
  | cons v visits ih => exact (landing_stays v).bind fun e _ => ih (events.push e)

theorem landings_can (visits : List Visit) (events : Array Event) :
    ∃ out, Can (landings events visits) (.ok out) := by
  induction visits generalizing events with
  | nil => exact ⟨events, .pure _⟩
  | cons v visits ih =>
    obtain ⟨e, drawn⟩ := landing_can v
    obtain ⟨out, rest⟩ := ih (events.push e)
    exact ⟨out, drawn.bind rest⟩

theorem amount_stays : Stays amount fun _ => True := Stays.unit.bind fun _ _ => .pure trivial

theorem outcome_stays (a : Action) : Stays (outcome a) fun _ => True := by
  cases a with
  | purchase => exact amount_stays.bind fun _ _ => .pure trivial
  | formSubmission => exact .pure trivial
  | pageView => exact (Stays.pick _).bind fun _ _ => .pure trivial
  | click => exact (Stays.pick _).bind fun _ _ => .pure trivial

/-- Within half an hour of a visit nothing is drawn that its end does not bound. -/
theorem action_stays
    (fits : ∀ v ∈ visits, v.start.base + (30 * minute : Nat) * 1000000 < calendarEnd) :
    Stays (action visits) fun _ => True := by
  refine (Stays.pick _).bind fun v among => ?_
  obtain ⟨stop, until_, ends, regular⟩ := later_eq_pure (fits v among)
  have least := spread_le (regular (.inr (by decide))) (by omega : v.start.base ≤ stop.base)
  have inside : v.start.base + spread v.start stop * 1000000 < calendarEnd := by
    have ends' := fits v among
    omega
  rw [until_, pure_bind]
  refine (timeBetween_stays inside).bind fun t _ => (Stays.pick _).bind fun a _ => ?_
  refine (outcome_stays a).bind fun (page, value) _ => ?_
  exact (Stays.pick _).bind fun referrer _ => .pure trivial

theorem action_leaves {i : Nat} (h : i < visits.size) (reached : i = 0 ∨ visits.size ≤ UInt64.size)
    (past : calendarEnd ≤ visits[i].start.base + (30 * minute : Nat) * 1000000) :
    Can (action visits) (.error .outOfCalendar) := by
  have picked : Can (pick visits) (.ok visits[i]) := by
    rcases reached with rfl | few
    · exact pick_first h
    · exact pick_any few h
  refine picked.bind ?_
  rw [later_eq_fail past]
  exact (Can.fail _).stop

theorem actions_stays (events : Array Event) (n : Nat)
    (fits : n = 0 ∨ ∀ v ∈ visits, v.start.base + (30 * minute : Nat) * 1000000 < calendarEnd) :
    Stays (actions visits events n) fun _ => True := by
  induction n generalizing events with
  | zero => exact .pure trivial
  | succ n ih =>
    have inside := fits.resolve_left (Nat.succ_ne_zero n)
    exact (action_stays inside).bind fun e _ => ih (events.push e) (.inr inside)

end Events
end Traffic

theorem Binary64.clamp_le (x : Binary64) (bound : Nat) : x.clamp bound ≤ bound := by
  cases x with
  | nan => exact Nat.zero_le _
  | infinite negative =>
    rw [clamp]
    split
    · exact Nat.zero_le _
    · exact Nat.le_refl _
  | finite negative mantissa exponent _ =>
    rw [clamp]
    split
    · exact Nat.zero_le _
    · exact Nat.min_le_left _ _

namespace Plan
open Traffic
variable (p : Plan)

/-- Milliseconds from the start of the plan to the latest instant that its generation may compute: the
latest first visit, the longest chain of returning visits after it, and then the end of what can happen
in the last visit, or else the end of the window it is drawn from. -/
def reach : Nat :=
  spread p.start p.stop + (p.sessionCount - p.users) * stride +
    if p.sessionCount < p.eventCount then 30 * minute
    else if p.users < p.sessionCount then 1
    else 0

theorem lastStart_le_reach : p.lastStart ≤ p.start.base + p.reach * 1000000 := by
  unfold lastStart reach
  omega

theorem chain_le_reach (returning : p.users < p.sessionCount) :
    p.lastStart + ((p.sessionCount - p.users) * stride + 1 : Nat) * 1000000 ≤
      p.start.base + p.reach * 1000000 := by
  have further : 1 ≤ if p.sessionCount < p.eventCount then 30 * minute else 1 := by split <;> decide
  rw [lastStart, reach, if_pos returning]
  omega

theorem reach_eq (more : p.sessionCount < p.eventCount) : p.start.base + p.reach * 1000000 =
    p.lastStart + ((p.sessionCount - p.users) * stride : Nat) * 1000000 +
      (30 * minute : Nat) * 1000000 := by
  rw [lastStart, reach, if_pos more]
  omega

/-- However the source spreads the visits, none starts later than the last of a chain of them all. -/
theorem visits_stay (fits : p.start.base + p.reach * 1000000 < Instant.calendarEnd) :
    Stays p.visits fun visits => ∀ v ∈ visits,
      v.start.base ≤ p.lastStart + ((p.sessionCount - p.users) * stride : Nat) * 1000000 := by
  have within := p.lastStart_le_reach
  refine (firstVisits_stays (by omega) p.users #[] (by simp)).bind fun first bounded => ?_
  refine returnVisits_stays bounded bounded ?_
  rcases Nat.lt_or_ge p.users p.sessionCount with returning | none_
  · have chain := p.chain_le_reach returning
    exact .inr (by omega)
  · exact .inl (Nat.sub_eq_zero_of_le none_)

theorem events_stay (fits : p.start.base + p.reach * 1000000 < Instant.calendarEnd) :
    Stays p.events fun _ => True := by
  refine (p.visits_stay fits).bind fun visits bounded => ?_
  refine (landings_stays visits.toList #[]).bind fun landings _ => ?_
  refine (actions_stays landings _ ?_).bind fun _ _ => .pure trivial
  rcases Nat.lt_or_ge p.sessionCount p.eventCount with more | none_
  · have reach := p.reach_eq more
    refine .inr fun v among => ?_
    have bound := bounded v among
    omega
  · exact .inl (Nat.sub_eq_zero_of_le none_)

theorem sessionCount_le (returning : p.users < p.sessionCount) : p.sessionCount ≤ UInt64.size := by
  have bounded := Binary64.clamp_le ((Binary64.ofNat p.users).mul p.sessionsPerUser) countBound
  have room : countBound ≤ UInt64.size := by decide
  unfold sessionCount at returning ⊢
  omega

/-- All visitors may come first as late as they can, and there are visitors. -/
theorem first_last (fits : p.lastStart < Instant.calendarEnd) :
    ∃ first, Can (firstVisits p #[] p.users) (.ok first) ∧ first.size = p.users ∧ 0 < first.size ∧
      ∀ v ∈ first, v.start.base = p.lastStart := by
  obtain ⟨first, drawn, size, last⟩ := firstVisits_last fits p.users #[] (by simp)
  have size' : first.size = p.users := size.trans (Nat.zero_add _)
  exact ⟨first, drawn, size', size' ▸ p.users_pos, last⟩

/-- Where all returning visits may follow each other, some visit may end such a chain, and be picked. -/
theorem visits_last (fits : p.lastStart < Instant.calendarEnd)
    (fits' : p.users < p.sessionCount →
      p.lastStart + ((p.sessionCount - p.users) * stride + 1 : Nat) * 1000000 < Instant.calendarEnd) :
    ∃ visits, Can p.visits (.ok visits) ∧ ∃ (i : Nat) (h : i < visits.size),
      (i = 0 ∨ visits.size ≤ UInt64.size) ∧ visits[i].start.base =
        p.lastStart + ((p.sessionCount - p.users) * stride : Nat) * 1000000 := by
  obtain ⟨first, drawn, size, some_, last⟩ := p.first_last fits
  have here := last first[0] (Array.getElem_mem some_)
  rcases Nat.lt_or_ge p.users p.sessionCount with returning | none_
  · have end_ : first.back?.map (·.start.base) = some p.lastStart := by
      rw [Array.back?_eq_getElem?, Array.getElem?_eq_getElem (by omega), Option.map_some,
        last _ (Array.getElem_mem _)]
    obtain ⟨visits, rest, size', end'⟩ := returnVisits_last (fits' returning) some_ here end_
    rw [Array.back?_eq_getElem?, Option.map_eq_some_iff] at end'
    obtain ⟨v, there, base⟩ := end'
    obtain ⟨inside, rfl⟩ := Array.getElem?_eq_some_iff.mp there
    refine ⟨visits, drawn.bind rest, _, inside, .inr ?_, base⟩
    have few := p.sessionCount_le returning
    omega
  · have none' : p.sessionCount - p.users = 0 := Nat.sub_eq_zero_of_le none_
    refine ⟨first, drawn.bind ?_, 0, some_, .inl rfl, ?_⟩
    · rw [none']
      exact .pure _
    · rw [here, none', Nat.zero_mul]
      exact (Int.add_zero _).symm

/-- If all visits fit, only what happens in the last one can reach past the calendar. -/
theorem more_of_past (fits : p.lastStart < Instant.calendarEnd)
    (fits' : p.users < p.sessionCount →
      p.lastStart + ((p.sessionCount - p.users) * stride + 1 : Nat) * 1000000 < Instant.calendarEnd)
    (past : Instant.calendarEnd ≤ p.start.base + p.reach * 1000000) : p.sessionCount < p.eventCount := by
  refine Nat.lt_of_not_le fun none_ => ?_
  rw [reach, if_neg (Nat.not_lt.mpr none_)] at past
  unfold lastStart at fits fits'
  rcases Nat.lt_or_ge p.users p.sessionCount with returning | none'
  · have chain := fits' returning
    rw [if_pos returning] at past
    omega
  · rw [if_neg (Nat.not_lt.mpr none'), Nat.sub_eq_zero_of_le none', Nat.zero_mul] at past
    omega

/-- The words that lead out of the calendar: all visitors come first as late as they can, then the first of
them returns as late as possible each time, and something happens in the last of these visits. -/
theorem events_leave (past : Instant.calendarEnd ≤ p.start.base + p.reach * 1000000) :
    Can p.events (.error .outOfCalendar) := by
  rcases Int.lt_or_le p.lastStart Instant.calendarEnd with fits | outside
  · by_cases fits' : p.users < p.sessionCount →
        p.lastStart + ((p.sessionCount - p.users) * stride + 1 : Nat) * 1000000 < Instant.calendarEnd
    · have more := p.more_of_past fits fits' past
      obtain ⟨visits, drawn, i, inside, reached, last⟩ := p.visits_last fits fits'
      obtain ⟨landings, rest⟩ := landings_can visits.toList #[]
      refine drawn.bind (rest.bind (Can.stop ?_))
      have left : p.eventCount - p.sessionCount = p.eventCount - p.sessionCount - 1 + 1 := by omega
      rw [left]
      refine (action_leaves inside reached ?_).stop
      rw [p.reach_eq more] at past
      omega
    · obtain ⟨returning, outside⟩ := Classical.not_imp.mp fits'
      obtain ⟨first, drawn, -, some_, last⟩ := p.first_last fits
      have left : p.sessionCount - p.users = p.sessionCount - p.users - 1 + 1 := by omega
      rw [left] at outside
      refine Can.stop (drawn.bind ?_)
      rw [left]
      exact returnVisits_leaves (Int.not_lt.mp outside) some_ (last _ (Array.getElem_mem some_))
  · have users : p.users = p.users - 1 + 1 := by
      have positive := p.users_pos
      omega
    refine Can.stop (Can.stop ?_)
    rw [users]
    exact (firstVisit_leaves outside _).stop

/-- Some source makes the generation run past the end of the calendar exactly if the reach of the plan
does: the limits that a plan has to keep do not exclude it. -/
theorem leaves_calendar_iff : (∃ source, p.generate source = .error .outOfCalendar) ↔
    Instant.calendarEnd ≤ p.start.base + p.reach * 1000000 := by
  constructor
  · rintro ⟨source, left⟩
    refine Int.not_lt.mp fun fits => (p.events_stay fits).2 source 0 ?_
    unfold generate at left
    rw [ReaderT.run] at left
    cases drawn : p.events source 0 with
    | ok outcome =>
      rw [drawn] at left
      cases left
    | error fault =>
      rw [drawn] at left
      exact congrArg _ (Except.error.inj left)
  · exact fun past => (p.events_leave past).happens

end Plan
end Clickstream
