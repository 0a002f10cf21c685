import Clickstream.Text.Blank
import Clickstream.Time.Instant
import Clickstream.Number.Numeral

/-! Instants read from text in a relaxed form of RFC 3339: blanks may stand before each number,
hyphen and colon and around the offset, and numbers may be short. -/
namespace Clickstream.Instant

/-- Why a text is not an instant. -/
inductive ReadError where
  | tooShort
  | invalid
  | outOfRange
  | tooLong
  | impossible
  deriving DecidableEq

def ReadError.message : ReadError → String
  | .tooShort => "premature end of input"
  | .invalid => "input contains invalid characters"
  | .outOfRange => "input is out of range"
  | .tooLong => "trailing input"
  | .impossible => "no possible date and time matching input"

/-- A reader takes the characters ahead and leaves those it did not use. -/
abbrev Reading := StateT (List Char) (Except ReadError)

namespace Reading

private def fail {α : Type} (e : ReadError) : Reading α := throw e

/-- Passes the blanks ahead. -/
def blanks : Reading Unit := modify Text.trimStart

/-- One to `width` digits. -/
def digits (width : Option Nat) : Reading (List Char) := do
  let ahead ← get
  let within := (width.map ahead.take).getD ahead
  let found := within.takeWhile Char.isDigit
  match ahead with
  | [] => fail .tooShort
  | _ =>
    if found.isEmpty then fail .invalid
    if 1 <<< 63 ≤ digitsValue found then fail .outOfRange
    set (ahead.drop found.length)
    return found

/-- A number of one to `width` digits between `low` and `high`, after any blanks. -/
def number (width low high : Nat) : Reading Nat := do
  blanks
  let n := digitsValue (← digits (some width))
  if n < low ∨ high < n then fail .outOfRange
  return n

/-- A year: up to four digits, or a sign and any number of them. -/
def year : Reading Int := do
  blanks
  let ahead ← get
  let value ← match ahead with
    | '-' :: rest => do
      set rest
      pure (-(digitsValue (← digits none) : Int))
    | '+' :: rest => do
      set rest
      pure (digitsValue (← digits none) : Int)
    | _ => do pure (digitsValue (← digits (some 4)) : Int)
  if value < Int32.minValue.toInt ∨ Int32.maxValue.toInt < value then fail .outOfRange
  return value

/-- One given character. -/
def mark (c : Char) : Reading Unit := do
  match ← get with
  | [] => fail .tooShort
  | head :: rest => if head = c then set rest else fail .invalid

/-- The mark between the date and the time. -/
def separator : Reading Unit := do
  match ← get with
  | [] => fail .tooShort
  | head :: rest => if head = 'T' ∨ head = 't' ∨ head = ' ' then set rest else fail .invalid

/-- The nanoseconds of an optional fraction; digits past the ninth are passed over. -/
def fraction : Reading Nat := do
  match ← get with
  | '.' :: rest => do
    set rest
    let found ← digits (some 9)
    modify (·.dropWhile Char.isDigit)
    return digitsValue (found ++ List.replicate (9 - found.length) '0')
  | _ => return 0

/-- Two digits; a lone ASCII character is too short for them. -/
def twoDigits : Reading Nat := do
  match ← get with
  | [] => fail .tooShort
  | [c] => if c.toNat < 128 then fail .tooShort else fail .invalid
  | a :: b :: rest =>
    if a.isDigit && b.isDigit then
      set rest
      return 10 * digitValue a + digitValue b
    else fail .invalid

/-- Minutes east of Greenwich, written as a sign, hours and minutes. -/
def signedOffset : Reading Int := do
  let negative ← match ← get with
    | '+' :: rest => do set rest; pure false
    | '-' :: rest => do set rest; pure true
    | '−' :: rest => do set rest; pure true
    | [] => fail .tooShort
    | _ => fail .invalid
  let hours ← twoDigits
  modify (·.dropWhile fun c => c == ':' || Text.isBlank c)
  let minutes ← twoDigits
  if 60 ≤ minutes then fail .outOfRange
  let offset : Int := (60 * hours + minutes : Nat)
  return if negative then -offset else offset

/-- Minutes east of Greenwich: the letter `Z`, the name of universal time, or a signed offset. -/
def offset : Reading Int := do
  let ahead ← get
  if (ahead.take 3).map Char.toLower = ['u', 't', 'c'] then
    set (ahead.drop 3)
    return 0
  match ahead with
  | 'Z' :: rest => do set rest; return 0
  | 'z' :: rest => do set rest; return 0
  | _ => signedOffset

/-- The whole form; the ranges of single numbers are checked as they are read, and whether the
day exists only after the end of the text. -/
def instant : Reading Instant := do
  let year ← year
  blanks; mark '-'
  let month ← number 2 1 12
  blanks; mark '-'
  let day ← number 2 1 31
  separator
  let hour ← number 2 0 23
  blanks; mark ':'
  let minute ← number 2 0 59
  blanks; mark ':'
  let second ← number 2 0 60
  let nanos ← fraction
  blanks
  let offset ← offset
  blanks
  unless (← get).isEmpty do fail .tooLong
  let date : Date := ⟨year, month, day⟩
  unless -262143 ≤ year ∧ year ≤ 262142 ∧ date.isReal do fail .outOfRange
  unless offset.natAbs < 1440 do fail .outOfRange
  let leap := second / 60
  let local_ : Int := ((hour * 60 + minute) * 60 + (second - leap) : Nat) - offset * 60
  let total := date.toDay * 86400 + local_
  match make? (total / 86400) (total % 86400).toNat (nanos + leap * 1000000000) with
  | some t => return t
  | none => fail .impossible

end Reading

/-- The instant that a text writes. -/
def read (s : String) : Except ReadError Instant :=
  (Reading.instant.run s.toList).map (·.1)

end Clickstream.Instant
