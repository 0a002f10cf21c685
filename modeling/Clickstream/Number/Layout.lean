import Clickstream.Number.Shortest

/-! How the digits of a number are laid out as text. One record holds the decisions of one format. -/
namespace Clickstream

/-- The decisions of a number format. -/
structure Layout where
  /-- Least power of ten of the first digit written without an exponent; `none` for all. -/
  positionalFrom : Option Int
  /-- Greatest such power. -/
  positionalTo : Option Int
  /-- A whole number ends in `.0`. -/
  keepsPoint : Bool
  /-- A positive exponent has its sign written. -/
  signsExponent : Bool
  tie : Binary64.Tie

namespace Layout

/-- Never an exponent, and no point in whole numbers: the form in messages. -/
def plain : Layout := ⟨none, none, false, false, .away⟩

/-- An exponent from 10^16 up and below 10^-5; the point is kept: the form in error dumps. -/
def dump : Layout := ⟨some (-5), some 15, true, false, .away⟩

/-- The form in JSON documents: an exponent as in a dump, with its sign. -/
def json : Layout := ⟨some (-5), some 15, true, true, .toEven⟩

def isPositional (layout : Layout) (first : Int) : Bool :=
  (layout.positionalFrom.all (· ≤ first)) && (layout.positionalTo.all (first ≤ ·))

/-- `digits · 10^power` without an exponent. -/
def positional (layout : Layout) (digits : List Char) (power : Int) : List Char :=
  let point := if layout.keepsPoint then ['.', '0'] else []
  if 0 ≤ power then digits ++ List.replicate power.toNat '0' ++ point
  else
    let places := (-power).toNat
    if places < digits.length then
      digits.take (digits.length - places) ++ ['.'] ++ digits.drop (digits.length - places)
    else ['0', '.'] ++ List.replicate (places - digits.length) '0' ++ digits

/-- One digit, the others after a point, and the exponent of the first. -/
def scientific (layout : Layout) (digits : List Char) (first : Int) : List Char :=
  let fraction := if digits.length ≤ 1 then [] else '.' :: digits.drop 1
  let sign := if first < 0 then ['-'] else if layout.signsExponent then ['+'] else []
  digits.take 1 ++ fraction ++ ['e'] ++ sign ++ Nat.toDigits 10 first.natAbs

/-- The size of a finite number as text. -/
def unsigned (layout : Layout) (mantissa : Nat) (exponent : Int) : List Char :=
  if mantissa = 0 then layout.positional ['0'] 0
  else
    let point := Binary64.shortest layout.tie mantissa exponent
    let digits := Nat.toDigits 10 point.digits
    let first := point.power + digits.length - 1
    if layout.isPositional first then layout.positional digits point.power
    else layout.scientific digits first

/-- The number as text; a negative zero keeps its sign. -/
def text (layout : Layout) : Binary64 → String
  | .nan => "NaN"
  | .infinite negative => if negative then "-inf" else "inf"
  | .finite negative mantissa exponent _ =>
    String.ofList ((if negative then ['-'] else []) ++ layout.unsigned mantissa exponent)

end Layout
end Clickstream
