/-! Integers as bytes, the most significant first. -/
namespace Clickstream.Bytes

/-- The number that the bytes are the digits of, to the base 256. -/
def value (bytes : List UInt8) : Nat := bytes.foldl (fun n b => 256 * n + b.toNat) 0

/-- The number that the bytes stand for in two's complement. -/
def signedValue (bytes : List UInt8) : Int :=
  let n := value bytes
  let size := 1 <<< (8 * bytes.length)
  if 2 * n < size then n else (n : Int) - size

/-- The last `width` digits of a number. -/
def ofNat : Nat → Nat → List UInt8
  | 0, _ => []
  | width + 1, n => ofNat width (n / 256) ++ [(n % 256).toUInt8]

/-- A number in two's complement, cut to `width` bytes. -/
def ofInt (width : Nat) (i : Int) : List UInt8 := ofNat width (i % (1 <<< (8 * width) : Nat)).toNat

end Clickstream.Bytes
