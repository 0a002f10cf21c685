import Clickstream.Number.Binary64

/-! Numbers read from text: whole numbers with an optional plus sign, and decimal fractions.
No blank is allowed anywhere. -/
namespace Clickstream

-- Powers of naturals are those of the core library.
attribute [local instance (2000)] instPowNat

/-- The value of a decimal digit. -/
def digitValue (c : Char) : Nat := c.toNat - '0'.toNat

/-- The number written by a list of decimal digits. -/
def digitsValue (cs : List Char) : Nat := cs.foldl (fun n c => 10 * n + digitValue c) 0

/-- A non-empty list of decimal digits. -/
def digits? (cs : List Char) : Option Nat :=
  if cs.isEmpty || !cs.all Char.isDigit then none else some (digitsValue cs)

/-- The text without its leading sign, and whether that sign was a minus. -/
def signed (cs : List Char) : Bool × List Char :=
  match cs with
  | '-' :: rest => (true, rest)
  | '+' :: rest => (false, rest)
  | _ => (false, cs)

/-- A whole number up to `bound`, with an optional plus sign. -/
def whole? (bound : Nat) (s : String) : Option Nat := do
  let (minus, rest) := signed s.toList
  if minus then none
  let n ← digits? rest
  if n ≤ bound then some n else none

namespace Binary64

/-- The number nearest to `± digits · 10^power`. -/
def ofDecimal (negative : Bool) (digits : Nat) (power : Int) : Binary64 :=
  let size : Int := power + (Nat.toDigits 10 digits).length
  if digits = 0 ∨ size < -330 then zero negative
  else if 310 < size then .infinite negative
  else round negative (digits * 10 ^ power.toNat) (10 ^ (-power).toNat)

/-- The exponent that follows a decimal, if the rest of the text is one. -/
def exponent? (cs : List Char) : Option Int :=
  match cs with
  | [] => some 0
  | c :: rest =>
    if c = 'e' ∨ c = 'E' then
      let (minus, digits) := signed rest
      (digits? digits).map fun n => if minus then -(n : Int) else n
    else none

/-- A decimal without its sign: digits around an optional point, then an optional exponent. -/
def decimal? (negative : Bool) (cs : List Char) : Option Binary64 := do
  let before := cs.takeWhile Char.isDigit
  let rest := cs.dropWhile Char.isDigit
  let (after, rest) :=
    match rest with
    | '.' :: rest => (rest.takeWhile Char.isDigit, rest.dropWhile Char.isDigit)
    | _ => ([], rest)
  if before.isEmpty && after.isEmpty then none
  let exponent ← exponent? rest
  some (ofDecimal negative (digitsValue (before ++ after)) (exponent - after.length))

/-- A number as a setting gives it: an optional sign, then a decimal or a special value's name. -/
def ofText? (s : String) : Option Binary64 :=
  let (negative, rest) := signed s.toList
  let name := String.ofList (rest.map Char.toLower)
  if name = "nan" then some .nan
  else if name = "inf" ∨ name = "infinity" then some (.infinite negative)
  else decimal? negative rest

end Binary64
end Clickstream
