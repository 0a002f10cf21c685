import Clickstream.Json.Reading

/-! JSON values that are passed over unread. They may nest to any depth, their numbers may be out
of any range, and their strings may hold halves of characters. -/
namespace Clickstream.Json.Reading

/-- Digits, of which there has to be one. -/
def passDigits : Reading Unit := do
  if !((← peek?).any Char.isDigit) then fail .syntactic
  modify (·.dropWhile Char.isDigit)

/-- An exponent, if one is ahead. -/
def passExponent : Reading Unit := do
  match ← get with
  | c :: rest =>
    if c = 'e' ∨ c = 'E' then
      set (signed rest).2
      passDigits
  | [] => return ()

/-- A number after its sign; one that ends too early counts as malformed. -/
def passNumber : Reading Unit := do
  match ← get with
  | '0' :: rest =>
    set rest
    if rest.head?.any Char.isDigit then fail .syntactic
  | _ => passDigits
  match ← get with
  | '.' :: rest =>
    set rest
    passDigits
  | _ => pure ()
  passExponent

/-- A string after its opening quote. -/
def passText : Reading Unit := do
  let after ← passString (← get)
  set after

/-- A member's key and colon. -/
def passKey : Reading Unit := do
  blanks
  match ← peek? with
  | none => fail .eof
  | some '"' => skip
  | some _ => fail .syntactic
  passText
  colon

mutual

/-- One value. The fuel bounds the number of nested calls; twice the characters ahead is enough. -/
def passValue : Nat → Reading Unit
  | 0 => fail .syntactic
  | fuel + 1 => do
    blanks
    match ← peek? with
    | none => fail .eof
    | some 'n' => word "null".toList
    | some 't' => word "true".toList
    | some 'f' => word "false".toList
    | some '-' => do skip; passNumber
    | some '"' => do skip; passText
    | some '[' => do
      skip
      blanks
      match ← peek? with
      | none => fail .eof
      | some ']' => skip
      | some _ => passItems fuel
    | some '\x7b' => do
      skip
      blanks
      match ← peek? with
      | none => fail .eof
      | some '\x7d' => skip
      | some _ => passMembers fuel
    | some c => if c.isDigit then passNumber else fail .syntactic

/-- The items of a list from the next on, and its end. -/
def passItems : Nat → Reading Unit
  | 0 => fail .syntactic
  | fuel + 1 => do
    passValue fuel
    blanks
    match ← peek? with
    | none => fail .eof
    | some ',' => do skip; passItems fuel
    | some ']' => skip
    | some _ => fail .syntactic

/-- The members of a record from the next on, and its end. -/
def passMembers : Nat → Reading Unit
  | 0 => fail .syntactic
  | fuel + 1 => do
    passKey
    passValue fuel
    blanks
    match ← peek? with
    | none => fail .eof
    | some ',' => do skip; passMembers fuel
    | some '\x7d' => skip
    | some _ => fail .syntactic

end

/-- One value of any kind. -/
def anyValue : Reading Unit := do
  passValue (2 * (← get).length + 2)

end Clickstream.Json.Reading
