import Clickstream.Number.Numeral
import Clickstream.Number.Layout
import Clickstream.Text.Quoted

/-! Reading JSON text from left to right. Only the class of a fault in the text itself is kept;
a fault in what the text says has a message. -/
namespace Clickstream.Json

inductive Fault where
  /-- The text ends too early. -/
  | eof
  /-- The text is not JSON. -/
  | syntactic
  /-- The text is JSON up to here, but not the value that is wanted. -/
  | data (message : String)
  deriving DecidableEq

/-- A reader takes the characters ahead and leaves those it did not use. -/
abbrev Reading := StateT (List Char) (Except Fault)

/-- The number `significand · 10^exponent`: one conversion, and one product or quotient with a
power of ten, each rounded; `none` when it is too large. -/
def scaleTen (f : Binary64) (exponent : Int) : Option Binary64 :=
  if 308 < exponent then (if f.isZero then some f else none)
  else if 0 ≤ exponent then
    let product := f.mul (.ofDecimal false 1 exponent)
    if product.isFinite then some product else none
  else if -308 ≤ exponent then some (f.div (.ofDecimal false 1 (-exponent)))
  else if f.isZero then some f
  else scaleTen (f.div (.ofDecimal false 1 308)) (exponent + 308)
termination_by exponent.natAbs
decreasing_by omega

/-- Digits appended to a significand while it stays below 2^64; how many, and the rest. -/
def fill (significand : Nat) : List Char → Nat × Nat × List Char
  | [] => (significand, 0, [])
  | c :: rest =>
    let next := 10 * significand + digitValue c
    if c.isDigit ∧ next < UInt64.size then
      let (filled, count, after) := fill next rest
      (filled, count + 1, after)
    else (significand, 0, c :: rest)

/-- The value of four hexadecimal digits ahead. -/
def fourHex (ahead : List Char) : Except Fault Nat :=
  let four := ahead.take 4
  if (String.ofList four).utf8ByteSize < 4 then .error .eof
  else
    let value (c : Char) : Option Nat :=
      if c.isDigit then some (digitValue c)
      else if 'a' ≤ c ∧ c ≤ 'f' then some (c.toNat - 'a'.toNat + 10)
      else if 'A' ≤ c ∧ c ≤ 'F' then some (c.toNat - 'A'.toNat + 10)
      else none
    match four.mapM value with
    | some [a, b, c, d] => .ok (((a * 16 + b) * 16 + c) * 16 + d)
    | _ => .error .syntactic

/-- The character of an escape with hexadecimal digits, and how many characters it took. A code
above U+FFFF is written as two escapes; half of one stands for nothing. -/
def unicodeEscape (ahead : List Char) : Except Fault (Char × Nat) := do
  let code ← fourHex ahead
  if 0xDC00 ≤ code ∧ code ≤ 0xDFFF then throw .syntactic
  if code < 0xD800 ∨ 0xDBFF < code then return (Char.ofNat code, 4)
  match ahead.drop 4 with
  | [] => throw .eof
  | ['\\'] => throw .eof
  | '\\' :: 'u' :: rest =>
    let low ← fourHex rest
    if low < 0xDC00 ∨ 0xDFFF < low then throw .syntactic
    return (Char.ofNat ((code - 0xD800) * 0x400 + (low - 0xDC00) + 0x10000), 10)
  | _ => throw .syntactic

/-- The character of an escape, without the backslash, and how many characters it took. -/
def unescape (ahead : List Char) : Except Fault (Char × Nat) :=
  match ahead with
  | [] => .error .eof
  | '"' :: _ => .ok ('"', 1)
  | '\\' :: _ => .ok ('\\', 1)
  | '/' :: _ => .ok ('/', 1)
  | 'b' :: _ => .ok ('\x08', 1)
  | 'f' :: _ => .ok ('\x0c', 1)
  | 'n' :: _ => .ok ('\n', 1)
  | 'r' :: _ => .ok ('\r', 1)
  | 't' :: _ => .ok ('\t', 1)
  | 'u' :: rest => (unicodeEscape rest).map fun (c, count) => (c, count + 1)
  | _ => .error .syntactic

/-- The characters of a string up to its closing quote, and what follows it. -/
def stringBody (ahead : List Char) : Except Fault (List Char × List Char) :=
  match ahead with
  | [] => .error .eof
  | '"' :: rest => .ok ([], rest)
  | '\\' :: rest => do
    let (c, count) ← unescape rest
    let (cs, after) ← stringBody (rest.drop count)
    return (c :: cs, after)
  | c :: rest =>
    if c.toNat < 0x20 then .error .syntactic
    else do
      let (cs, after) ← stringBody rest
      return (c :: cs, after)
termination_by ahead.length
decreasing_by all_goals (simp only [List.length_drop, List.length_cons]; omega)

/-- How many characters an escape takes in a string that is passed over: its code may be any. -/
def passEscape (ahead : List Char) : Except Fault Nat :=
  match ahead with
  | 'u' :: rest => (fourHex rest).map fun _ => 5
  | _ => (unescape ahead).map (·.2)

/-- What follows the closing quote of a string that is passed over. -/
def passString (ahead : List Char) : Except Fault (List Char) :=
  match ahead with
  | [] => .error .eof
  | '"' :: rest => .ok rest
  | '\\' :: rest => do
    let count ← passEscape rest
    passString (rest.drop count)
  | c :: rest => if c.toNat < 0x20 then .error .syntactic else passString rest
termination_by ahead.length
decreasing_by all_goals (simp only [List.length_drop, List.length_cons]; omega)

/-- A number as it was written. -/
inductive Number where
  | whole (i : Int)
  | fractional (x : Binary64)

def Number.toBinary64 : Number → Binary64
  | .whole i => .ofInt i
  | .fractional x => x

namespace Reading

def fail {α : Type} (f : Fault) : Reading α := throw f

def peek? : Reading (Option Char) := return (← get).head?

def skip : Reading Unit := modify (·.drop 1)

/-- Passes blanks; only four characters are blank in JSON. -/
def blanks : Reading Unit :=
  modify (·.dropWhile fun c => c == ' ' || c == '\n' || c == '\t' || c == '\r')

/-- The rest of a word such as `null`. -/
def word : List Char → Reading Unit
  | [] => return ()
  | c :: cs => do
    match ← get with
    | [] => fail .eof
    | head :: rest =>
      if head = c then
        set rest
        word cs
      else fail .syntactic

/-- A string after its opening quote. -/
def string : Reading String := do
  let (cs, after) ← stringBody (← get)
  set after
  return String.ofList cs

/-- The float `± significand · 10^exponent`. -/
def float (negative : Bool) (significand : Nat) (exponent : Int) : Reading Number := do
  match scaleTen (.ofNat significand) exponent with
  | some x => return .fractional (if negative then x.neg else x)
  | none => fail .syntactic

/-- What follows the letter of an exponent. -/
def exponent (negative : Bool) (significand : Nat) (before : Int) : Reading Number := do
  let (down, ahead) := signed (← get)
  let digits := ahead.takeWhile Char.isDigit
  match ahead with
  | [] => fail .eof
  | _ =>
    if digits.isEmpty then fail .syntactic
    set (ahead.drop digits.length)
    let n := digitsValue digits
    if n < 1 <<< 31 then float negative significand (if down then before - n else before + n)
    else if significand ≠ 0 ∧ !down then fail .syntactic
    else return .fractional (.zero negative)

/-- The number ends here, or an exponent follows. -/
def tail (negative : Bool) (significand : Nat) (before : Int) : Reading Number := do
  match ← get with
  | 'e' :: rest => do set rest; exponent negative significand before
  | 'E' :: rest => do set rest; exponent negative significand before
  | _ => float negative significand before

/-- What follows the point. Digits that a significand of 64 bits cannot take are dropped. -/
def decimals (negative : Bool) (significand : Nat) (before : Int) : Reading Number := do
  let (filled, count, ahead) := fill significand (← get)
  let dropped := ahead.takeWhile Char.isDigit
  if count = 0 ∧ dropped.isEmpty then fail (if ahead.isEmpty then .eof else .syntactic)
  set (ahead.drop dropped.length)
  tail negative filled (before - count)

/-- What follows the digits of a whole part that takes `before` more digits than were kept. -/
def afterWhole (negative : Bool) (significand : Nat) (before : Nat) : Reading Number := do
  match ← get with
  | '.' :: rest => do set rest; decimals negative significand before
  | 'e' :: rest => do set rest; exponent negative significand before
  | 'E' :: rest => do set rest; exponent negative significand before
  | _ =>
    if before ≠ 0 then float negative significand before
    else if !negative then return .whole significand
    else if significand = 0 ∨ 1 <<< 63 < significand then
      return .fractional (Binary64.ofNat significand).neg
    else return .whole (-(significand : Int))

/-- A number after its sign. A whole number that fits no 64 bits is read as a float. -/
def number (negative : Bool) : Reading Number := do
  match ← get with
  | [] => fail .eof
  | '0' :: rest =>
    set rest
    if rest.head?.any Char.isDigit then fail .syntactic
    afterWhole negative 0 0
  | c :: rest =>
    if !c.isDigit then fail .syntactic
    let (significand, _, ahead) := fill (digitValue c) rest
    let dropped := ahead.takeWhile Char.isDigit
    set (ahead.drop dropped.length)
    afterWhole negative significand dropped.length

/-- The fault of a value of another kind than the expected one. A scalar is read to its end first,
and may be faulty itself. -/
def mismatch {α : Type} (expected : String) : Reading α := do
  let wrong (what : String) : Reading α :=
    fail (.data ("invalid type: " ++ what ++ ", expected " ++ expected))
  let wrongNumber : Number → Reading α
    | .whole i => wrong ("integer \x60" ++ toString i ++ "\x60")
    | .fractional x => wrong ("floating point \x60" ++ Layout.json.text x ++ "\x60")
  match ← peek? with
  | some 'n' => do word "null".toList; wrong "null"
  | some 't' => do word "true".toList; wrong "boolean \x60true\x60"
  | some 'f' => do word "false".toList; wrong "boolean \x60false\x60"
  | some '-' => do skip; wrongNumber (← number true)
  | some '"' => do skip; wrong ("string " ++ Text.quoted (← string))
  | some '[' => wrong "sequence"
  | some '\x7b' => wrong "map"
  | some c => if c.isDigit then wrongNumber (← number false) else fail .syntactic
  | none => fail .syntactic

/-- A string value. -/
def text (expected : String) : Reading String := do
  blanks
  match ← peek? with
  | none => fail .eof
  | some '"' => do skip; string
  | some _ => mismatch expected

/-- A number value as a float. -/
def numeric (expected : String) : Reading Binary64 := do
  blanks
  match ← peek? with
  | none => fail .eof
  | some '-' => do skip; return (← number true).toBinary64
  | some c => if c.isDigit then return (← number false).toBinary64 else mismatch expected

/-- The blanks and the colon after a member's key. -/
def colon : Reading Unit := do
  blanks
  match ← peek? with
  | none => fail .eof
  | some ':' => skip
  | some _ => fail .syntactic

/-- Whether another member follows in a record, whose opening quote is then ahead. -/
def anotherMember (first : Bool) : Reading Bool := do
  blanks
  match ← peek? with
  | none => fail .eof
  | some '\x7d' => return false
  | some c =>
    if !first then
      if c ≠ ',' then fail .syntactic
      skip
      blanks
    match ← peek? with
    | none => fail .eof
    | some '"' => return true
    | some _ => fail .syntactic

/-- Whether another item follows in a list. -/
def anotherItem (first : Bool) : Reading Bool := do
  blanks
  match ← peek? with
  | none => fail .eof
  | some ']' => return false
  | some c =>
    if first then return true
    if c ≠ ',' then fail .syntactic
    skip
    blanks
    match ← peek? with
    | none => fail .eof
    | some ']' => fail .syntactic
    | some _ => return true

/-- The closing bracket of a list. -/
def closeList : Reading Unit := do
  blanks
  match ← peek? with
  | none => fail .eof
  | some ']' => skip
  | some _ => fail .syntactic

end Reading
end Clickstream.Json
