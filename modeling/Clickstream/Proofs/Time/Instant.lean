import Clickstream.Time.Instant

/-! Instants outside leap seconds as numbers: their order, distances and sums are those of the
nanoseconds since 1970. In a leap second none of this holds. -/
namespace Clickstream.Instant

/-- The instant lies in no leap second. -/
def Regular (t : Instant) : Prop := t.nano < 1000000000

instance (t : Instant) : Decidable t.Regular := inferInstanceAs (Decidable (_ < _))

/-- The nanoseconds since 1970, leap seconds not counted. -/
def nanos (t : Instant) : Int := t.unixSeconds * 1000000000 + t.nano

variable {a b t u : Instant}

theorem before_iff (ha : a.Regular) (hb : b.Regular) : a.before b = true ↔ a.nanos < b.nanos := by
  have seconds := a.second_lt
  have seconds' := b.second_lt
  unfold Regular at ha hb
  simp only [before, nanos, unixSeconds, Bool.or_eq_true, Bool.and_eq_true, decide_eq_true_eq,
    beq_iff_eq]
  omega

theorem nanosSince_eq (ha : a.Regular) (hb : b.Regular) : a.nanosSince b = a.nanos - b.nanos := by
  have none_ : leapBetween a b = 0 := by
    simp [leapBetween, Nat.not_le.mpr ha, Nat.not_le.mpr hb]
  rw [nanosSince, none_, nanos, nanos]
  omega

/-- The nanoseconds since 1970, with every leap second laid over the second before it. -/
def base (t : Instant) : Int := t.unixSeconds * 1000000000 + (t.nano % 1000000000 : Nat)

/-- The first nanosecond past the calendar. -/
def calendarEnd : Int := (95026236 + 1) * 86400 * 1000000000

theorem base_eq (regular : t.Regular) : t.base = t.nanos := by
  rw [base, nanos, Nat.mod_eq_of_lt regular]

theorem base_lt (t : Instant) : t.base < calendarEnd := by
  have day := t.day_le
  have seconds := t.second_lt
  have rest : t.nano % 1000000000 < 1000000000 := Nat.mod_lt _ (by decide)
  unfold base calendarEnd unixSeconds
  omega

/-- What a leap second adds is at most the second that the earlier instant lies in. -/
theorem leapBetween_le (ha : a.Regular) : a.leapBetween b ≤ (b.nano / 1000000000 : Nat) := by
  have none_ : ¬1000000000 ≤ a.nano := Nat.not_le.mpr ha
  rw [leapBetween, if_neg none_]
  split
  · split <;> omega
  · split <;> omega

theorem leapBetween_le_one (a b : Instant) : a.leapBetween b ≤ 1 := by
  rw [leapBetween]
  split
  · split <;> decide
  · split
    · split <;> decide
    · decide

/-- No time up to an instant outside leap seconds is longer than it is with leap seconds laid over the
seconds before them. -/
theorem nanosSince_le (ha : a.Regular) : a.nanosSince b ≤ a.base - b.base := by
  have leap : a.leapBetween b ≤ _ := leapBetween_le ha
  have room := b.nano_lt
  rw [nanosSince, base_eq ha, nanos, base]
  omega

/-- Milliseconds between instants of the calendar fit into a word. -/
theorem millisSince_toNat_le (a b : Instant) : (a.millisSince b).toNat ≤ UInt64.size := by
  have leap := leapBetween_le_one a b
  have from_ := b.day_ge
  have until_ := a.day_le
  have seconds := a.second_lt
  have nano := a.nano_lt
  have bounded : a.nanosSince b ≤ (UInt64.size : Int) * 1000000 := by
    rw [nanosSince, unixSeconds, unixSeconds, UInt64.size]
    omega
  have millis : a.millisSince b ≤ ((UInt64.size : Int) * 1000000).tdiv 1000000 :=
    Int.tdiv_le_tdiv (by decide) bounded
  exact Int.toNat_le.mpr millis

private theorem make?_fits {day : Int} {second nano : Nat} (from_ : -96465292 ≤ day)
    (until_ : day ≤ 95026236) (inside : second < 86400) (short : nano < 2000000000) :
    ∃ u, make? day second nano = some u ∧ u.day = day ∧ u.second = second ∧ u.nano = nano := by
  unfold make?
  rw [dif_pos ⟨⟨from_, until_⟩, inside, short⟩]
  exact ⟨_, rfl, rfl, rfl, rfl⟩

private theorem make?_past {day : Int} {second nano : Nat} (past : 95026236 < day) :
    make? day second nano = none :=
  dif_neg fun fits => Int.not_le.mpr past fits.1.2

section Added
variable {millis : Nat}

private def Lingers (t : Instant) (millis : Nat) : Prop :=
  1000000000 ≤ t.nano ∧ millis < 1000 ∧ t.nano + millis % 1000 * 1000000 < 2000000000

private theorem addMillis?_carries (leaves : ¬t.Lingers millis) :
    ∃ (seconds nano : Nat), nano < 1000000000 ∧
      t.addMillis? millis = make? (t.day + (seconds / 86400 : Nat)) (seconds % 86400) nano ∧
      (t.day * 86400 + seconds) * 1000000000 + nano = t.base + millis * 1000000 := by
  refine ⟨_, _, Nat.mod_lt _ (by decide), if_neg leaves, ?_⟩
  unfold base unixSeconds
  omega

private theorem addMillis?_lingers (lingers : t.Lingers millis) :
    t.base + millis * 1000000 < calendarEnd ∧
      ∃ u, t.addMillis? millis = some u ∧ u.base = t.base + millis * 1000000 := by
  obtain ⟨leap, short, room⟩ := lingers
  have day := t.day_le
  have seconds := t.second_lt
  obtain ⟨u, made, sameDay, sameSecond, nano⟩ :=
    make?_fits t.day_ge t.day_le t.second_lt room
  refine ⟨?_, u, (if_pos ⟨leap, short, room⟩).trans made, ?_⟩
  · unfold base unixSeconds calendarEnd
    omega
  · rw [base, base, unixSeconds, unixSeconds, sameDay, sameSecond, nano]
    omega

/-- A sum before the end of the calendar is exact, with leap seconds laid over the seconds before them. It
lies outside them if the instant does, or if a second or more is added. -/
theorem addMillis?_fits (fits : t.base + millis * 1000000 < calendarEnd) :
    ∃ u, t.addMillis? millis = some u ∧ u.base = t.base + millis * 1000000 ∧
      (t.Regular ∨ 1000 ≤ millis → u.Regular) := by
  by_cases lingers : t.Lingers millis
  · obtain ⟨-, u, added, sum⟩ := addMillis?_lingers lingers
    obtain ⟨leap, short, -⟩ := lingers
    refine ⟨u, added, sum, fun regular => ?_⟩
    unfold Regular at regular
    omega
  · obtain ⟨seconds, nano, below, added, sum⟩ := addMillis?_carries lingers
    have started := t.day_ge
    unfold calendarEnd at fits
    have from_ : -96465292 ≤ t.day + (seconds / 86400 : Nat) := by omega
    have until_ : t.day + (seconds / 86400 : Nat) ≤ 95026236 := by omega
    obtain ⟨u, made, day, second, same⟩ :=
      make?_fits from_ until_ (Nat.mod_lt seconds (by decide)) (Nat.lt_trans below (by decide))
    have regular : u.Regular := by rwa [Regular, same]
    refine ⟨u, added.trans made, ?_, fun _ => regular⟩
    rw [base_eq regular, nanos, unixSeconds, day, second, same]
    omega

theorem addMillis?_past (past : calendarEnd ≤ t.base + millis * 1000000) :
    t.addMillis? millis = none := by
  by_cases lingers : t.Lingers millis
  · exact absurd past (Int.not_le.mpr (addMillis?_lingers lingers).1)
  · obtain ⟨seconds, nano, below, added, sum⟩ := addMillis?_carries lingers
    unfold calendarEnd at past
    rw [added]
    exact make?_past (by omega)

end Added

/-- A sum outside leap seconds is exact, and stays outside them. -/
theorem addMillis?_eq_some {millis : Nat} (regular : t.Regular)
    (added : t.addMillis? millis = some u) : u.Regular ∧ u.nanos = t.nanos + millis * 1000000 := by
  rcases Int.lt_or_le (t.base + millis * 1000000) calendarEnd with fits | past
  · obtain ⟨u', added', sum, stays⟩ := addMillis?_fits fits
    obtain rfl := Option.some.inj (added.symm.trans added')
    have regular' := stays (.inl regular)
    rw [base_eq regular, base_eq regular'] at sum
    exact ⟨regular', sum⟩
  · rw [addMillis?_past past] at added
    cases added

end Clickstream.Instant
