/-! Binary64 numbers as exact values m · 2^e. Every operation computes its exact result as a
quotient of naturals and rounds once, to nearest with ties to even. -/
namespace Clickstream

/-- The pairs that name each finite value once: a full mantissa, or the least exponent. -/
def CanonicalParts (mantissa : Nat) (exponent : Int) : Prop :=
  mantissa < 1 <<< 53 ∧ -1074 ≤ exponent ∧ exponent ≤ 971 ∧ (1 <<< 52 ≤ mantissa ∨ exponent = -1074)

instance (mantissa : Nat) (exponent : Int) : Decidable (CanonicalParts mantissa exponent) := by
  unfold CanonicalParts; infer_instance

/-- A binary64 number. The payload of a NaN is not kept. -/
inductive Binary64 where
  | nan
  | infinite (negative : Bool)
  | finite (negative : Bool) (mantissa : Nat) (exponent : Int)
      (canonical : CanonicalParts mantissa exponent)
  deriving DecidableEq

namespace Binary64

/-- The finite value with these parts; parts out of range stand for an overflow. -/
def ofParts (negative : Bool) (mantissa : Nat) (exponent : Int) : Binary64 :=
  if h : CanonicalParts mantissa exponent then .finite negative mantissa exponent h
  else .infinite negative

/-- The zero of either sign. -/
def zero (negative : Bool) : Binary64 := ofParts negative 0 (-1074)

instance : Inhabited Binary64 := ⟨zero false⟩

/-- Which way a quotient goes that lies half-way between two integers. -/
inductive Tie where
  | toEven
  | away
  deriving DecidableEq

/-- The integer nearest to `num / den`. -/
def roundQuotient (tie : Tie) (num den : Nat) : Nat :=
  let quotient := num / den
  let twice := 2 * (num % den)
  if twice < den then quotient
  else if den < twice then quotient + 1
  else
    match tie with
    | .toEven => quotient + quotient % 2
    | .away => quotient + 1

/-- The fraction `num / den · 2^(-shift)` as a pair. -/
def scaled (num den : Nat) (shift : Int) : Nat × Nat :=
  if 0 ≤ shift then (num, den <<< shift.toNat) else (num <<< (-shift).toNat, den)

/-- The value nearest to `± num / den`, for a positive `den`. -/
def round (negative : Bool) (num den : Nat) : Binary64 :=
  if num = 0 then zero negative
  else
    let size : Int := (num.log2 : Int) - (den.log2 : Int)
    let full := scaled num den (size - 52)
    let fit : Int := if full.2 <<< 52 ≤ full.1 then size - 52 else size - 53
    let exponent := max fit (-1074)
    let fraction := scaled num den exponent
    let mantissa := roundQuotient .toEven fraction.1 fraction.2
    if mantissa = 1 <<< 53 then ofParts negative (1 <<< 52) (exponent + 1)
    else ofParts negative mantissa exponent

/-- The size of a finite value as a quotient of naturals. -/
def ratio (mantissa : Nat) (exponent : Int) : Nat × Nat := scaled mantissa 1 (-exponent)

def ofNat (n : Nat) : Binary64 := round false n 1

def ofInt (i : Int) : Binary64 := round (i < 0) i.natAbs 1

def isFinite : Binary64 → Bool
  | .finite .. => true
  | _ => false

def isZero : Binary64 → Bool
  | .finite _ mantissa .. => mantissa == 0
  | _ => false

def neg : Binary64 → Binary64
  | .nan => .nan
  | .infinite negative => .infinite (!negative)
  | .finite negative mantissa exponent h => .finite (!negative) mantissa exponent h

def mul : Binary64 → Binary64 → Binary64
  | .nan, _ => .nan
  | _, .nan => .nan
  | .infinite a, .infinite b => .infinite (a != b)
  | .infinite a, .finite b m _ _ => if m = 0 then .nan else .infinite (a != b)
  | .finite a m _ _, .infinite b => if m = 0 then .nan else .infinite (a != b)
  | .finite a m e _, .finite b n f _ =>
    let product := ratio (m * n) (e + f)
    round (a != b) product.1 product.2

def div : Binary64 → Binary64 → Binary64
  | .nan, _ => .nan
  | _, .nan => .nan
  | .infinite _, .infinite _ => .nan
  | .infinite a, .finite b _ _ _ => .infinite (a != b)
  | .finite a _ _ _, .infinite b => zero (a != b)
  | .finite a m e _, .finite b n f _ =>
    if n = 0 then (if m = 0 then .nan else .infinite (a != b))
    else
      let x := ratio m e
      let y := ratio n f
      round (a != b) (x.1 * y.2) (x.2 * y.1)

def add : Binary64 → Binary64 → Binary64
  | .nan, _ => .nan
  | _, .nan => .nan
  | .infinite a, .infinite b => if a = b then .infinite a else .nan
  | .infinite a, .finite .. => .infinite a
  | .finite .., .infinite b => .infinite b
  | .finite a m e _, .finite b n f _ =>
    let x := ratio m e
    let y := ratio n f
    let signed (negative : Bool) (k : Nat) : Int := if negative then -(k : Int) else k
    let sum := signed a (x.1 * y.2) + signed b (y.1 * x.2)
    if sum = 0 then zero (a && b) else round (sum < 0) sum.natAbs (x.2 * y.2)

/-- The integer part of a finite value, without the sign. -/
def magnitude (mantissa : Nat) (exponent : Int) : Nat :=
  let r := ratio mantissa exponent
  r.1 / r.2

/-- The nearest integer toward zero. -/
def truncate : Binary64 → Binary64
  | .finite negative mantissa exponent _ => round negative (magnitude mantissa exponent) 1
  | x => x

/-- The nearest integer, a half away from zero. -/
def roundHalfAway : Binary64 → Binary64
  | .finite negative mantissa exponent _ =>
    let r := ratio mantissa exponent
    round negative (roundQuotient .away r.1 r.2) 1
  | x => x

/-- Whether the number is at least `n`; no NaN is. -/
def atLeast (n : Nat) : Binary64 → Bool
  | .nan => false
  | .infinite negative => !negative
  | .finite negative mantissa exponent _ =>
    let r := ratio mantissa exponent
    if negative then n = 0 && mantissa = 0 else decide (n * r.2 ≤ r.1)

/-- The integer part, held within `0` and `bound`; a NaN gives zero. -/
def clamp (bound : Nat) : Binary64 → Nat
  | .nan => 0
  | .infinite negative => if negative then 0 else bound
  | .finite negative mantissa exponent _ =>
    if negative then 0 else min bound (magnitude mantissa exponent)

/-- `x` multiplied by itself `n` times, by repeated squaring; each product is rounded. -/
def power (x : Binary64) (n : Nat) : Binary64 := go x n (ofNat 1) n
where
  go (base : Binary64) (rest : Nat) (acc : Binary64) : Nat → Binary64
    | 0 => acc
    | fuel + 1 =>
      let acc := if rest % 2 = 1 then mul acc base else acc
      if rest / 2 = 0 then acc else go (mul base base) (rest / 2) acc fuel

/-- The value of 64 bits in the interchange format. -/
def ofBits (bits : Nat) : Binary64 :=
  let negative := bits >>> 63 % 2 == 1
  let biased : Nat := bits >>> 52 % 1 <<< 11
  let fraction : Nat := bits % 1 <<< 52
  if biased = 2047 then (if fraction = 0 then .infinite negative else .nan)
  else if biased = 0 then ofParts negative fraction (-1074)
  else ofParts negative (1 <<< 52 + fraction) ((biased : Int) - 1075)

/-- The 64 bits of the interchange format; a NaN has none of its own. -/
def toBits? : Binary64 → Option Nat
  | .nan => none
  | .infinite negative => some ((if negative then 1 <<< 63 else 0) + 2047 <<< 52)
  | .finite negative mantissa exponent _ =>
    let sign := if negative then 1 <<< 63 else 0
    if mantissa < 1 <<< 52 then some (sign + mantissa)
    else some (sign + (exponent + 1075).toNat <<< 52 + (mantissa - 1 <<< 52))

/-- The value of 32 bits of the single format, which binary64 holds exactly. -/
def ofBits32 (bits : Nat) : Binary64 :=
  let negative := bits >>> 31 % 2 == 1
  let biased : Nat := bits >>> 23 % 1 <<< 8
  let fraction : Nat := bits % 1 <<< 23
  if biased = 255 then (if fraction = 0 then .infinite negative else .nan)
  else
    let mantissa := if biased = 0 then fraction else 1 <<< 23 + fraction
    let exponent : Int := if biased = 0 then -149 else (biased : Int) - 150
    let r := ratio mantissa exponent
    round negative r.1 r.2

end Binary64
end Clickstream
