import Clickstream.Proofs.Number.Rounding
import Clickstream.Proofs.Traffic.Visits

/-! The events of generated traffic: each belongs to a visit, which it opens or falls into. -/
namespace Clickstream
open Draw Storefront

namespace Visit
variable (v : Visit) (e : Event)

/-- The event is one of the visit. -/
structure Owns : Prop where
  account : e.accountId = account
  clientId : e.clientId = v.clientId
  sessionId : e.sessionId = v.sessionId
  userAgent : e.userAgent = v.agent.userAgent
  screenResolution : e.screenResolution = v.agent.screenResolution

/-- The event is the view of the page that the visit begins on. -/
structure Opens : Prop extends v.Owns e where
  name : e.name = "page_view"
  timestamp : e.timestamp = v.start
  value : e.value = .zero false
  page : ∃ page ∈ pages, ∃ channel ∈ channels, ∃ query ∈ channel.queries,
    e.pageLocation = host ++ page.path ++ query ∧ e.pageTitle = page.title ∧
      e.pageReferrer ∈ channel.referrers

end Visit

namespace Traffic

/-- The event is on the page. -/
def On (page : Page) (e : Event) : Prop :=
  e.pageLocation = host ++ page.path ∧ e.pageTitle = page.title

/-- An amount of whole hundredths, not negative and below 300. -/
structure Priced (x : Binary64) : Prop where
  hundredths : ∃ cents < 30000, x = (Binary64.ofNat cents).div (.ofNat 100)
  from_ : x.atLeast 0 = true
  until_ : x.atLeast 300 = false

/-- Where events happen that open no visit, and what they are worth: only purchases have a value. -/
inductive Concludes (e : Event) : Prop
  | purchase (name : e.name = "purchase") (on : On confirmation e) (value : Priced e.value)
  | submission (name : e.name = "form_submission") (on : On thankYou e) (value : e.value = .zero false)
  | other {page : Page} (name : e.name = "page_view" ∨ e.name = "cta_click") (among : page ∈ pages)
    (on : On page e) (value : e.value = .zero false)

end Traffic

/-- The event happens in the first half hour of the visit. -/
structure Visit.Holds (v : Visit) (e : Event) : Prop extends v.Owns e where
  regular : e.timestamp.Regular
  from_ : v.start.nanos ≤ e.timestamp.nanos
  until_ : e.timestamp.nanos < v.start.nanos + 30 * Traffic.minute * 1000000
  concludes : Traffic.Concludes e
  referrer : ∃ page ∈ pages, e.pageReferrer = host ++ page.path

namespace Traffic

theorem landing_opens (v : Visit) : Yields (landing v) v.Opens := by
  refine (Yields.pick _).bind fun page inPages => ?_
  refine (Yields.pick _).bind fun channel inChannels => ?_
  refine (Yields.pick _).bind fun referrer inReferrers => ?_
  refine (Yields.pick _).bind fun query inQueries => .pure ?_
  exact ⟨⟨rfl, rfl, rfl, rfl, rfl⟩, rfl, rfl, rfl,
    page, inPages, channel, inChannels, query, inQueries, rfl, rfl, inReferrers⟩

section Amount
open Binary64

private theorem below_canonical : CanonicalParts (1 <<< 53 - 1) (-53) ∧
    CanonicalParts (300 <<< 44 - 1) (-44) ∧ CanonicalParts (30000 <<< 38 - 1) (-38) := by
  decide

private theorem ofNat_300 : ∃ h, Binary64.ofNat 300 = .finite false (300 <<< 44) (-44) h :=
  ⟨by decide, rfl⟩

private theorem ofNat_100 : ∃ h, Binary64.ofNat 100 = .finite false (100 <<< 46) (-46) h :=
  ⟨by decide, rfl⟩

theorem priced_of_lt {cents : ℕ} (bound : cents < 30000) :
    Priced ((Binary64.ofNat cents).div (.ofNat 100)) := by
  obtain ⟨_, hundred⟩ := ofNat_100
  have whole : (Binary64.ofNat cents).Within ((29999 <<< 38 : ℕ) * 2 ^ (-38 : ℤ)) := by
    refine .round Nat.one_pos (by decide) ?_
    have : (cents : ℚ) + 1 ≤ (30000 : ℕ) := by exact_mod_cast bound
    norm_num [Nat.shiftLeft_eq] at this ⊢
    linarith
  have amount : ((Binary64.ofNat cents).div (.ofNat 100)).Within
      ((300 <<< 44 - 1 : ℕ) * 2 ^ (-44 : ℤ)) := by
    rw [hundred]
    exact whole.div (by decide) below_canonical.2.1 (by norm_num [Nat.shiftLeft_eq])
  exact ⟨⟨cents, bound, rfl⟩, amount.atLeast_zero, amount.not_atLeast (by norm_num [Nat.shiftLeft_eq])⟩

/-- What is drawn is below 1, and stays a step below 300 and 30000 when it is multiplied, however the
products are rounded. -/
theorem amount_priced : Yields amount Priced := by
  obtain ⟨one, threeHundred, thirtyThousand⟩ := below_canonical
  obtain ⟨_, times300⟩ := ofNat_300
  obtain ⟨_, times100⟩ := ofNat_100
  refine Yields.unit.bind ?_
  rintro _ ⟨n, bound, rfl⟩
  have share : (Binary64.round false n (1 <<< 53)).Within ((1 <<< 53 - 1 : ℕ) * 2 ^ (-53 : ℤ)) := by
    refine .round (by decide) one ?_
    have : (n : ℚ) + 1 ≤ (1 <<< 53 : ℕ) := by exact_mod_cast bound
    norm_num [Nat.shiftLeft_eq] at this ⊢
    linarith
  have price := share.mul ⟨_, _, _, times300, le_refl _⟩ threeHundred (by norm_num [Nat.shiftLeft_eq])
  have cents := price.mul ⟨_, _, _, times100, le_refl _⟩ thirtyThousand
    (by norm_num [Nat.shiftLeft_eq])
  obtain ⟨k, below, cut⟩ := cents.truncate (n := 30000) (by norm_num [Nat.shiftLeft_eq])
  refine .pure ?_
  rw [cut]
  exact priced_of_lt below

end Amount

/-- The page and the value of an action suit it, in whatever visit and at whatever time it happens. -/
theorem outcome_concludes (a : Action) : Yields (outcome a) fun (page, value) =>
    ∀ (v : Visit) (t : Instant) (referrer : String),
      Concludes (event v a value t page "" referrer) := by
  have on (page : Page) (value : Binary64) (v : Visit) (t : Instant) (referrer : String) :
      On page (event v a value t page "" referrer) := ⟨String.append_empty, rfl⟩
  cases a with
  | purchase =>
    exact amount_priced.bind fun value priced =>
      .pure fun v t referrer => .purchase rfl (on _ _ _ _ _) priced
  | formSubmission => exact .pure fun v t referrer => .submission rfl (on _ _ _ _ _) rfl
  | pageView =>
    exact (Yields.pick _).bind fun page among =>
      .pure fun v t referrer => .other (.inl rfl) among (on _ _ _ _ _) rfl
  | click =>
    exact (Yields.pick _).bind fun page among =>
      .pure fun v t referrer => .other (.inr rfl) among (on _ _ _ _ _) rfl

/-- The page and the value suit what happens, whatever visits there are. -/
theorem action_concludes (visits : Array Visit) : Yields (action visits) Concludes := by
  refine (Yields.anything _).bind fun v _ => (Yields.anything _).bind fun stop _ => ?_
  refine (Yields.anything _).bind fun t _ => (Yields.anything _).bind fun a _ => ?_
  refine (outcome_concludes a).bind ?_
  rintro ⟨page, value⟩ concludes
  exact (Yields.anything _).bind fun referrer _ => .pure (concludes v t _)

theorem action_holds {visits : Array Visit} (regular : ∀ v ∈ visits, v.start.Regular) :
    Yields (action visits) fun e => ∃ v ∈ visits, v.Holds e := by
  refine (Yields.pick _).bind fun v among => ?_
  refine (later_yields (regular v among) (30 * minute)).bind fun stop ⟨stopRegular, end_⟩ => ?_
  have window : v.start.nanos < stop.nanos := by
    rw [end_, minute]
    omega
  refine (timeBetween_yields (regular v among) stopRegular window).bind fun t inside => ?_
  obtain ⟨tRegular, from_, until_⟩ := inside
  refine (Yields.anything _).bind fun a _ => ?_
  refine (outcome_concludes a).bind ?_
  rintro ⟨page, value⟩ concludes
  refine (Yields.pick _).bind fun referrer inPages => .pure ⟨v, among, ⟨rfl, rfl, rfl, rfl, rfl⟩,
    tRegular, from_, ?_, concludes v t _, referrer, inPages, rfl⟩
  rw [end_] at until_
  push_cast at until_
  exact until_

theorem landings_open (events : Array Event) (visits : List Visit) :
    Yields (landings events visits) fun out =>
      ∃ new, out.toList = events.toList ++ new ∧ List.Forall₂ Visit.Opens visits new := by
  induction visits generalizing events with
  | nil => exact .pure ⟨[], by simp, .nil⟩
  | cons v visits ih =>
    refine (landing_opens v).bind fun e opens => (ih (events.push e)).weaken fun out => ?_
    rintro ⟨new, grown, all⟩
    exact ⟨e :: new, by simp [grown], .cons opens all⟩

/-- What holds of one action holds of them all. -/
theorem actions_grow {visits : Array Visit} {P : Event → Prop} (each : Yields (action visits) P)
    (events : Array Event) (n : Nat) :
    Yields (actions visits events n) fun out =>
      ∃ new, out.toList = events.toList ++ new ∧ new.length = n ∧ ∀ e ∈ new, P e := by
  induction n generalizing events with
  | zero => exact .pure ⟨[], by simp, rfl, by simp⟩
  | succ n ih =>
    refine each.bind fun e holds => (ih (events.push e)).weaken fun out => ?_
    rintro ⟨new, grown, length, all⟩
    exact ⟨e :: new, by simp [grown], by simp [length], by simpa using ⟨holds, all⟩⟩

end Traffic

/-- The events of a plan are the views that its visits begin with, in order, and then those that happen
in the visits. -/
theorem Plan.events_of_visits {p : Plan} (regular : p.start.Regular) (regular' : p.stop.Regular) :
    Yields p.events fun events => ∃ (visits : Array Visit) (first : List Visit) (latest : Array Visit),
      (visits.size = p.sessionCount ∧ first.length = p.users ∧ Traffic.Kept p first latest visits) ∧
      ∃ views others, events = views ++ others ∧ List.Forall₂ Visit.Opens visits.toList views ∧
        others.length = p.eventCount - p.sessionCount ∧ ∀ e ∈ others, ∃ v ∈ visits, v.Holds e := by
  refine (p.visits_kept regular regular').bind fun visits => ?_
  rintro ⟨size, first, latest, users, kept⟩
  have visitRegular : ∀ v ∈ visits, v.start.Regular :=
    fun v among => kept.regular v (Array.mem_toList_iff.mpr among)
  refine (Traffic.landings_open #[] visits.toList).bind fun landings => ?_
  rintro ⟨views, landed, opens⟩
  refine (Traffic.actions_grow (Traffic.action_holds visitRegular) landings _).bind fun all => ?_
  rintro ⟨others, grown, length, hold⟩
  refine .pure ⟨visits, first, latest, ⟨size, users, kept⟩, views, others, ?_, opens, length, hold⟩
  rw [grown, landed]
  rfl

end Clickstream
