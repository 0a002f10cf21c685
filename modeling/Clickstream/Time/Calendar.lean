/-! The proleptic Gregorian calendar, with a year zero. Days are counted from 1 January 1970. -/
namespace Clickstream

/-- A year, a month from 1, and a day of the month from 1. -/
structure Date where
  year : Int
  month : Nat
  day : Nat
  deriving DecidableEq

namespace Date

def isLeap (year : Int) : Bool := year % 4 = 0 && (year % 100 ≠ 0 || year % 400 = 0)

/-- The lengths of the months of a year. -/
def monthLengths (year : Int) : List Nat :=
  [31, if isLeap year then 29 else 28, 31, 30, 31, 30, 31, 31, 30, 31, 30, 31]

/-- The day number of the first of January. -/
def yearStart (year : Int) : Int :=
  365 * year + (year - 1) / 4 - (year - 1) / 100 + (year - 1) / 400 - 719527

/-- The year that a day lies in. The mean length of a year gives it up to one. -/
def yearOf (day : Int) : Int :=
  let guess := (day + 719527) * 400 / 146097
  if day < yearStart guess then guess - 1
  else if yearStart (guess + 1) ≤ day then guess + 1
  else guess

/-- The month, from `month` on, and the day of it that lie `rest` days ahead. -/
def monthAndDay : List Nat → Nat → Nat → Nat × Nat
  | [], month, rest => (month, rest + 1)
  | length :: lengths, month, rest =>
    if rest < length then (month, rest + 1) else monthAndDay lengths (month + 1) (rest - length)

def ofDay (day : Int) : Date :=
  let year := yearOf day
  let (month, dayOfMonth) := monthAndDay (monthLengths year) 1 (day - yearStart year).toNat
  ⟨year, month, dayOfMonth⟩

/-- The month and the day exist in the year. -/
def isReal (d : Date) : Bool :=
  1 ≤ d.month && 1 ≤ d.day && ((monthLengths d.year)[d.month - 1]?).any (d.day ≤ ·)

def toDay (d : Date) : Int :=
  let before : Nat := ((monthLengths d.year).take (d.month - 1)).foldl (· + ·) 0
  yearStart d.year + (before : Int) + (d.day : Int) - 1

/-- A number padded with zeros to `width` digits. -/
def padded (width n : Nat) : List Char :=
  let digits := Nat.toDigits 10 n
  List.replicate (width - digits.length) '0' ++ digits

/-- Four digits at least; a sign where the year has not four digits or is negative. -/
def yearText (year : Int) : List Char :=
  if 0 ≤ year ∧ year ≤ 9999 then padded 4 year.toNat
  else (if year < 0 then '-' else '+') :: padded 4 year.natAbs

def chars (d : Date) : List Char :=
  yearText d.year ++ ['-'] ++ padded 2 d.month ++ ['-'] ++ padded 2 d.day

end Date
end Clickstream
