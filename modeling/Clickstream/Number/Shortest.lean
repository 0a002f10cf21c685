import Clickstream.Number.Binary64

/-! The fewest decimal digits that single out a binary64 number among all others.
Digits are tried by count; a count succeeds when a point of its decimal grid lies in the
interval of reals that round to the number. -/
namespace Clickstream.Binary64

-- Powers of naturals are those of the core library.
attribute [local instance (2000)] instPowNat

/-- A positive decimal number: its digits as a natural, and the power of ten of the last one. -/
structure Digits where
  digits : Nat
  power : Int
  deriving DecidableEq

/-- A positive number as the quotient `num / den`, with the ends of the reals that round to it. -/
structure Neighbourhood where
  num : Nat
  low : Nat
  high : Nat
  den : Nat
  /-- The ends themselves round to the number. -/
  closed : Bool

/-- The reals that round to `mantissa · 2^exponent`; below a power of two they are half as wide. -/
def neighbourhood (mantissa : Nat) (exponent : Int) : Neighbourhood :=
  let unit := scaled 1 1 (2 - exponent)
  let below := if mantissa = 1 <<< 52 ∧ exponent ≠ -1074 then 1 else 2
  { num := 4 * mantissa * unit.1
    low := (4 * mantissa - below) * unit.1
    high := (4 * mantissa + 2) * unit.1
    den := unit.2
    closed := mantissa % 2 = 0 }

/-- The point `digits · 10^power` lies in the interval. -/
def Neighbourhood.holds (n : Neighbourhood) (point : Digits) : Bool :=
  let up := point.digits * 10 ^ point.power.toNat * n.den
  let down := 10 ^ (-point.power).toNat
  if n.closed then n.low * down ≤ up && up ≤ n.high * down
  else n.low * down < up && up < n.high * down

/-- The greatest `k` with `10^k ≤ num / den`, searched downwards from `start`. -/
def decimalSize (num den : Nat) : Nat → Int → Int
  | 0, start => start
  | fuel + 1, start =>
    if 10 ^ start.toNat * den ≤ num * 10 ^ (-start).toNat then start
    else decimalSize num den fuel (start - 1)

/-- An upper bound of the decimal size, off by two at most. -/
def sizeBound (num den : Nat) : Int :=
  let bits : Int := (num.log2 : Int) - (den.log2 : Int) + 1
  Int.fdiv (bits * 30103) 100000 + 1

/-- The better of the two grid points around the number, if one lies in the interval. -/
def gridPoint? (tie : Tie) (n : Neighbourhood) (power : Int) : Option Digits :=
  let top := n.num * 10 ^ (-power).toNat
  let unit := n.den * 10 ^ power.toNat
  let floor : Digits := ⟨top / unit, power⟩
  let ceiling : Digits := ⟨top / unit + 1, power⟩
  let nearest : Digits := ⟨roundQuotient tie top unit, power⟩
  match n.holds floor, n.holds ceiling with
  | false, false => none
  | true, false => some floor
  | false, true => some ceiling
  | true, true => some nearest

/-- The first grid with a point in the interval, from `power` downwards. -/
def firstGrid (tie : Tie) (n : Neighbourhood) : Nat → Int → Digits
  | 0, power => ⟨n.num * 10 ^ (-power).toNat / (n.den * 10 ^ power.toNat), power⟩
  | fuel + 1, power =>
    match gridPoint? tie n power with
    | some point => point
    | none => firstGrid tie n fuel (power - 1)

/-- Trailing zeros moved into the power of ten. -/
def Digits.trimmed : Nat → Digits → Digits
  | 0, d => d
  | fuel + 1, d =>
    if d.digits ≠ 0 ∧ d.digits % 10 = 0 then Digits.trimmed fuel ⟨d.digits / 10, d.power + 1⟩ else d

/-- The shortest digits of a positive finite number. No number needs more than 17. -/
def shortest (tie : Tie) (mantissa : Nat) (exponent : Int) : Digits :=
  let n := neighbourhood mantissa exponent
  let size := decimalSize n.num n.den 4 (sizeBound n.num n.den)
  (firstGrid tie n 18 size).trimmed 18

end Clickstream.Binary64
