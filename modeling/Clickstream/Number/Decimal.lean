import Clickstream.Number.Numeral

/-! Decimal numbers with a 96-bit mantissa and at most 28 decimals, and their way from and to
binary64. Neither way is exact for every number. -/
namespace Clickstream

-- Powers of naturals are those of the core library.
attribute [local instance (2000)] instPowNat

/-- The number `± mantissa / 10^scale`. A negative zero is kept apart from zero. -/
structure Decimal where
  negative : Bool
  mantissa : Nat
  scale : Nat
  mantissa_lt : mantissa < 1 <<< 96
  scale_le : scale ≤ 28
  deriving DecidableEq

namespace Decimal

/-- The number with these parts, if they are in range. -/
def make? (negative : Bool) (mantissa scale : Nat) : Option Decimal :=
  if h : mantissa < 1 <<< 96 ∧ scale ≤ 28 then some ⟨negative, mantissa, scale, h.1, h.2⟩ else none

def zero : Decimal := ⟨false, 0, 0, by decide, by decide⟩

instance : Inhabited Decimal := ⟨zero⟩

/-- Sign, digits, and exactly `scale` decimals. -/
def text (d : Decimal) : String :=
  let digits := Nat.toDigits 10 d.mantissa
  let padded := List.replicate (d.scale + 1 - digits.length) '0' ++ digits
  let whole := padded.take (padded.length - d.scale)
  let fraction := padded.drop (padded.length - d.scale)
  let point := if fraction.isEmpty then [] else '.' :: fraction
  String.ofList ((if d.negative then ['-'] else []) ++ whole ++ point)

/-- The integer part and the fraction are converted apart, added, and the sum is rounded to the
number's decimals; a number without decimals is converted at once, and as a zero loses its sign. -/
def toBinary64 (d : Decimal) : Binary64 :=
  let unit := 10 ^ d.scale
  let sign (x : Binary64) := if d.negative then x.neg else x
  if d.scale = 0 then .ofInt (if d.negative then -(d.mantissa : Int) else d.mantissa)
  else
    let whole := Binary64.ofNat (d.mantissa / unit)
    let fraction := (Binary64.ofNat (d.mantissa % unit)).div (.ofNat unit)
    if fraction.isZero then sign whole
    else
      let places := Binary64.power (.ofNat 10) d.scale
      sign ((((whole.add fraction).mul places).roundHalfAway).div places)

/-- A mantissa with the powers of two, five and ten it stands beside. -/
structure Scaling where
  mantissa : Nat
  five : Int
  ten : Int

/-- Factors five are multiplied in while the mantissa stays below 96 bits; an even mantissa is
halved instead, as is one without room. -/
def Scaling.raise : Nat → Scaling → Scaling
  | 0, s => s
  | fuel + 1, s =>
    if s.five ≤ 0 then s
    else if s.mantissa % 2 = 0 then raise fuel ⟨s.mantissa / 2, s.five - 1, s.ten + 1⟩
    else if 5 * s.mantissa < 1 <<< 96 then raise fuel ⟨5 * s.mantissa, s.five - 1, s.ten⟩
    else raise fuel ⟨s.mantissa / 2, s.five - 1, s.ten + 1⟩

/-- Factors five are divided out against doublings while there is room for them. -/
def Scaling.lower : Nat → Scaling → Option Scaling
  | 0, s => some s
  | fuel + 1, s =>
    if 0 ≤ s.five then some s
    else if s.mantissa < 1 <<< 95 then lower fuel ⟨2 * s.mantissa, s.five + 1, s.ten - 1⟩
    else if -s.five < 2 * s.ten then none
    else lower fuel ⟨s.mantissa / 5, s.five + 1, s.ten⟩

/-- Positive powers of ten are multiplied in; there may be no room. -/
def Scaling.settle : Nat → Scaling → Option Scaling
  | 0, s => some s
  | fuel + 1, s =>
    if s.ten ≤ 0 then some s
    else if 10 * s.mantissa < 1 <<< 96 then settle fuel ⟨10 * s.mantissa, s.five, s.ten - 1⟩
    else none

/-- One decimal is dropped, a half rounded up. -/
def Scaling.dropDecimal (s : Scaling) : Scaling :=
  ⟨s.mantissa / 10 + (if 5 ≤ s.mantissa % 10 then 1 else 0), s.five, s.ten + 1⟩

/-- Decimals past the 28th are dropped one by one; nothing left is plain zero. -/
def Scaling.shorten : Nat → Scaling → Scaling
  | 0, s => s
  | fuel + 1, s =>
    if -28 ≤ s.ten then s
    else if s.mantissa / 10 = 0 then ⟨0, s.five, 0⟩
    else shorten fuel s.dropDecimal

/-- Decimals are dropped until the mantissa is below 2^52. -/
def Scaling.fit : Nat → Scaling → Scaling
  | 0, s => s
  | fuel + 1, s =>
    if 0 ≤ s.ten ∨ s.mantissa < 1 <<< 52 then s else fit fuel s.dropDecimal

/-- Final zeros among the decimals are dropped. -/
def Scaling.strip : Nat → Scaling → Scaling
  | 0, s => s
  | fuel + 1, s =>
    if 0 ≤ s.ten ∨ s.mantissa % 10 ≠ 0 then s
    else strip fuel ⟨s.mantissa / 10, s.five, s.ten + 1⟩

/-- The decimal a binary64 number is kept as; `none` when it is not finite or too large.
The sign of a zero is dropped, also where nothing is left of the number. -/
def ofBinary64? : Binary64 → Option Decimal
  | .nan => none
  | .infinite _ => none
  | .finite negative mantissa exponent _ =>
    if mantissa = 0 then some zero
    else do
      let raised := Scaling.raise 1100 ⟨mantissa, -exponent, exponent⟩
      let lowered ← Scaling.lower 1100 raised
      let settled ← Scaling.settle 1100 lowered
      let kept := Scaling.strip 30 (Scaling.fit 30 (Scaling.shorten 1100 settled))
      make? (negative && kept.mantissa != 0) kept.mantissa (-kept.ten).toNat

end Decimal
end Clickstream
