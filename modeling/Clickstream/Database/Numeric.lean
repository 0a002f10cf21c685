import Clickstream.Database.Bytes
import Clickstream.Number.Decimal

/-! Numbers of any size as the database sends them: groups of four digits with the weight of the
first. They are kept as decimals of 96 bits, with what decimals there is room for. -/
namespace Clickstream

-- Powers of naturals are those of the core library.
attribute [local instance (2000)] instPowNat

/-- The sum of the groups, each times a power of 10000 that begins at `weight` and falls. -/
structure Numeric where
  negative : Bool
  weight : Int
  /-- How many decimals are shown. -/
  decimals : Nat
  groups : List Nat
  deriving DecidableEq

namespace Numeric

/-- A mantissa and a number of decimals. -/
abbrev Sum := Nat × Nat

/-- `n / 10^scale` with as many of its decimals as 96 bits have room for, a half to even. -/
def fit? (n scale : Nat) : Option Sum :=
  (List.range (scale + 1)).findSome? fun dropped =>
    let mantissa := Binary64.roundQuotient .toEven n (10 ^ dropped)
    if mantissa < 1 <<< 96 then some (mantissa, scale - dropped) else none

/-- Adds `n / 10^scale`. Nothing changes where `n` is zero. -/
def add? (sum : Sum) (n scale : Nat) : Option Sum :=
  if n = 0 then some sum
  else
    let common := max sum.2 scale
    fit? (sum.1 * 10 ^ (common - sum.2) + n * 10 ^ (common - scale)) common

/-- Adds the groups after `place` decimals. Of what lies beyond 28 decimals the first group is
rounded at its first digit, and the others do not count. -/
def addGroups? (sum : Sum) (place : Nat) : List Nat → Option Sum
  | [] => some sum
  | group :: rest => do
    let next ←
      if place + 4 ≤ 28 then add? sum group (place + 4)
      else if place = 28 ∧ 5000 ≤ group then add? sum 1 28
      else some sum
    addGroups? next (place + 4) rest

/-- Multiplies in up to so many decimals, while there is room. -/
def widen : Nat → Sum → Sum
  | 0, sum => sum
  | n + 1, (mantissa, scale) =>
    if 10 * mantissa < 1 <<< 96 then widen n (10 * mantissa, scale + 1) else (mantissa, scale)

/-- The sum with so many decimals, a half rounded up, or with fewer where there is no room. -/
def rescale (sum : Sum) (decimals : Nat) : Sum :=
  if decimals < sum.2 then
    (Binary64.roundQuotient .away sum.1 (10 ^ (sum.2 - decimals)), decimals)
  else widen (decimals - sum.2) sum

/-- The decimal that a number is kept as. A zero keeps its decimals and its sign. -/
def toDecimal? (x : Numeric) : Option Decimal := do
  let wholeGroups := (x.weight + 1).toNat
  let first := x.groups.take wholeGroups
  let digits := first.foldl (fun n group => 10000 * n + group) 0
  let whole := if digits = 0 then 0 else digits * 10000 ^ (wholeGroups - first.length)
  if 1 <<< 96 ≤ whole then none
  let sum ← addGroups? (whole, 0) (4 * (-x.weight - 1).toNat) (x.groups.drop wholeGroups)
  let (mantissa, scale) := rescale sum (min x.decimals 28)
  Decimal.make? x.negative mantissa scale

/-- Digits in groups of four; a last group that is not full is filled with zeros. -/
def groupsOf : List Char → List Nat
  | [] => []
  | [a] => [digitsValue [a, '0', '0', '0']]
  | [a, b] => [digitsValue [a, b, '0', '0']]
  | [a, b, c] => [digitsValue [a, b, c, '0']]
  | a :: b :: c :: d :: rest => digitsValue [a, b, c, d] :: groupsOf rest

/-- The number that a decimal text stands for, shown with as many decimals as the text has. -/
def ofText? (text : String) : Option Numeric := do
  let (negative, cs) := signed text.toList
  let whole := cs.takeWhile Char.isDigit
  let fraction ←
    match cs.dropWhile Char.isDigit with
    | [] => some []
    | '.' :: rest => if rest.all Char.isDigit then some rest else none
    | _ => none
  if whole.isEmpty && fraction.isEmpty then none
  let filled := List.replicate ((4 - whole.length % 4) % 4) '0' ++ whole
  return ⟨negative, (filled.length / 4 : Nat) - 1, fraction.length,
    groupsOf filled ++ groupsOf fraction⟩

/-- The codes of the signs, and of what is no number. -/
def minusCode : Nat := 0x4000

def nanCode : Nat := 0xC000

def infinityCode : Nat := 0xD000

def minusInfinityCode : Nat := 0xF000

/-- The count of groups, the weight, the sign and the decimals, then the groups. -/
def toBytes (x : Numeric) : List UInt8 :=
  Bytes.ofNat 2 x.groups.length ++ Bytes.ofInt 2 x.weight ++
    Bytes.ofNat 2 (if x.negative then minusCode else 0) ++ Bytes.ofNat 2 x.decimals ++
    x.groups.flatMap (Bytes.ofNat 2)

/-- The bytes of a text that is a number or the name of what is none. -/
def bytesOfText? (text : String) : Option (List UInt8) :=
  let special (code : Nat) := Bytes.ofNat 4 0 ++ Bytes.ofNat 2 code ++ Bytes.ofNat 2 0
  if text = "NaN" then some (special nanCode)
  else if text = "Infinity" then some (special infinityCode)
  else if text = "-Infinity" then some (special minusInfinityCode)
  else (ofText? text).map toBytes

/-- So many pairs of bytes as numbers. -/
def readGroups? : Nat → List UInt8 → Option (List Nat)
  | 0, _ => some []
  | n + 1, a :: b :: rest => (readGroups? n rest).map (Bytes.value [a, b] :: ·)
  | _ + 1, _ => none

/-- Reads the bytes of a number. What follows the last group does not count. -/
def ofBytes? (bytes : List UInt8) : Option Numeric := do
  let header ← readGroups? 4 bytes
  let [count, _, sign, decimals] := header | none
  if [nanCode, infinityCode, minusInfinityCode].contains sign then none
  let groups ← readGroups? count (bytes.drop 8)
  return ⟨sign = minusCode, Bytes.signedValue ((bytes.drop 2).take 2), decimals, groups⟩

end Numeric
end Clickstream
