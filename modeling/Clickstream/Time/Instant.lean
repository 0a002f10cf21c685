import Clickstream.Time.Calendar

/-! Instants of universal time to the nanosecond. A leap second is told from the second before it
by a nanosecond count of 10^9 and more; the calendar knows no table of the leap seconds that
were, so any second may be followed by one, also within a minute. -/
namespace Clickstream

/-- An instant within the years -262143 to 262142. -/
structure Instant where
  /-- Days since 1 January 1970. -/
  day : Int
  /-- Second of the day. -/
  second : Nat
  /-- Nanosecond of the second; 10^9 and more lie in the leap second that follows it. -/
  nano : Nat
  day_ge : -96465292 ≤ day
  day_le : day ≤ 95026236
  second_lt : second < 86400
  nano_lt : nano < 2000000000
  deriving DecidableEq

namespace Instant

def make? (day : Int) (second nano : Nat) : Option Instant :=
  if h : (-96465292 ≤ day ∧ day ≤ 95026236) ∧ second < 86400 ∧ nano < 2000000000 then
    some ⟨day, second, nano, h.1.1, h.1.2, h.2.1, h.2.2⟩
  else none

def epoch : Instant := ⟨0, 0, 0, by decide, by decide, by decide, by decide⟩

/-- 1 January 2000, from which the database counts. -/
def databaseEpoch : Instant :=
  ⟨10957, 0, 0, by decide, by decide, by decide, by decide⟩

def startOf2023 : Instant :=
  ⟨19358, 0, 0, by decide, by decide, by decide, by decide⟩

/-- The last second of 2023. -/
def endOf2023 : Instant :=
  ⟨19722, 86399, 0, by decide, by decide, by decide, by decide⟩

instance : Inhabited Instant := ⟨epoch⟩

/-- Earlier by day, second and nanosecond, in this order. -/
def before (a b : Instant) : Bool :=
  a.day < b.day || (a.day == b.day && (a.second < b.second ||
    (a.second == b.second && a.nano < b.nano)))

/-- Whole seconds since 1970, leap seconds not counted. -/
def unixSeconds (t : Instant) : Int := t.day * 86400 + t.second

/-- A leap second is counted where the earlier time of day lies in it and the later one past it. -/
def leapBetween (a b : Instant) : Int :=
  if b.second < a.second then (if 1000000000 ≤ b.nano then 1 else 0)
  else if a.second < b.second then (if 1000000000 ≤ a.nano then -1 else 0)
  else 0

/-- The nanoseconds from `b` to `a`. -/
def nanosSince (a b : Instant) : Int :=
  (a.unixSeconds - b.unixSeconds + leapBetween a b) * 1000000000 + ((a.nano : Int) - b.nano)

/-- The milliseconds from `b` to `a`, toward zero. -/
def millisSince (a b : Instant) : Int := Int.tdiv (a.nanosSince b) 1000000

/-- The microseconds since the database's epoch, toward zero. -/
def databaseMicros (t : Instant) : Int := Int.tdiv (t.nanosSince databaseEpoch) 1000

/-- The instant `millis` milliseconds later; `none` past the end of the calendar. An instant in a
leap second stays in it as long as it can. -/
def addMillis? (t : Instant) (millis : Nat) : Option Instant :=
  let nanos := millis % 1000 * 1000000
  if 1000000000 ≤ t.nano ∧ millis < 1000 ∧ t.nano + nanos < 2000000000 then
    make? t.day t.second (t.nano + nanos)
  else
    let total := t.nano % 1000000000 + nanos
    let seconds := t.second + millis / 1000 + total / 1000000000
    make? (t.day + (seconds / 86400 : Nat)) (seconds % 86400) (total % 1000000000)

/-- The decimals of a second, with the fewest of 0, 3, 6 and 9 digits that are exact. -/
def fractionChars (nano : Nat) : List Char :=
  if nano = 0 then []
  else if nano % 1000000 = 0 then '.' :: Date.padded 3 (nano / 1000000)
  else if nano % 1000 = 0 then '.' :: Date.padded 6 (nano / 1000)
  else '.' :: Date.padded 9 nano

/-- The time of day. A leap second is written as the second after the one that it follows: as second 60
at the end of a minute, and within one like the second that comes next. -/
def timeChars (t : Instant) : List Char :=
  let second := t.second % 60 + t.nano / 1000000000
  Date.padded 2 (t.second / 3600) ++ [':'] ++ Date.padded 2 (t.second / 60 % 60) ++ [':'] ++
    Date.padded 2 second ++ fractionChars (t.nano % 1000000000)

/-- The date and the time around a separator, then the zone. -/
def text (separator zone : String) (t : Instant) : String :=
  String.ofList
    ((Date.ofDay t.day).chars ++ separator.toList ++ t.timeChars ++ zone.toList)

/-- The form of RFC 3339 with a numeric offset. -/
def offsetText (t : Instant) : String := t.text "T" "+00:00"

/-- The form of RFC 3339 with the letter for universal time, as in documents and dumps. -/
def zuluText (t : Instant) : String := t.text "T" "Z"

/-- The form in messages. -/
def plainText (t : Instant) : String := t.text " " " UTC"

end Instant
end Clickstream
