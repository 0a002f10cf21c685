import Clickstream.Number.Numeral
import Clickstream.Sql.Token
import Clickstream.Text.Blank
import Clickstream.Text.Letter
import Clickstream.Text.Uppercase

/-! SQL text cut into tokens. The whole text is cut before anything is read from it, so a fault
at its end makes all of it unreadable. -/
namespace Clickstream.Sql.Lexer

/-- A step of the lexer: a token, unless it passed a blank or a comment, and the characters left. -/
abbrev Step := Option (Option Token × List Char)

def isNameStart (c : Char) : Bool := Text.isLetter c || c == '_'

def isNamePart (c : Char) : Bool := Text.isLetter c || c.isDigit || c == '$' || c == '_'

/-- Characters that custom operators are made of. -/
def isOperatorPart (c : Char) : Bool := "+-*/<>=~!@#%^&|\x60?".toList.contains c

/-- The value of a hexadecimal digit. -/
def hexDigit? (c : Char) : Option Nat :=
  if c.isDigit then some (digitValue c)
  else if 'a' ≤ c ∧ c ≤ 'f' then some (c.toNat - 'a'.toNat + 10)
  else if 'A' ≤ c ∧ c ≤ 'F' then some (c.toNat - 'A'.toNat + 10)
  else none

/-- The number that a list of hexadecimal digits writes. -/
def hexValue? (cs : List Char) : Option Nat :=
  cs.foldlM (fun n c => (hexDigit? c).map (16 * n + ·)) 0

/-- The character of a code point. -/
def char? (n : Nat) : Option Char := if n.isValidChar then some (Char.ofNat n) else none

/-- A string after its opening quote; a quote in it is doubled, and a backslash may take the next
character along. -/
def quotedBody (quote : Char) (backslash : Bool) : List Char → Option (List Char × List Char)
  | [] => none
  | c :: rest =>
    if c = quote then
      match rest with
      | d :: rest' =>
        if d = quote then (quotedBody quote backslash rest').map fun (s, after) => (c :: s, after)
        else some ([], rest)
      | [] => some ([], [])
    else if backslash && c == '\\' then
      match rest with
      | d :: rest' => (quotedBody quote backslash rest').map fun (s, after) => (d :: s, after)
      | [] => none
    else (quotedBody quote backslash rest).map fun (s, after) => (c :: s, after)

/-- The character of an escape in an `E` string, and what follows it. -/
def escape? (ahead : List Char) : Option (Char × List Char) := do
  let byte (n : Nat) : Option Char := if n % 256 < 128 then some (Char.ofNat (n % 256)) else none
  let code (count : Nat) (rest : List Char) : Option (Char × List Char) := do
    let digits := rest.take count
    if digits.length < count then none
    let n ← hexValue? (if digits.head? = some '+' then digits.drop 1 else digits)
    return (← char? n, rest.drop count)
  let (c, rest) ← match ahead with
    | [] => none
    | 'b' :: rest => some ('\x08', rest)
    | 'f' :: rest => some ('\x0c', rest)
    | 'n' :: rest => some ('\n', rest)
    | 'r' :: rest => some ('\r', rest)
    | 't' :: rest => some ('\t', rest)
    | 'u' :: rest => code 4 rest
    | 'U' :: rest => code 8 rest
    | 'x' :: rest =>
      let digits := (rest.take 2).takeWhile fun c => (hexDigit? c).isSome
      if digits.isEmpty then some ('x', rest)
      else ((hexValue? digits).bind byte).map (·, rest.drop digits.length)
    | c :: rest =>
      let isOctal (c : Char) : Bool := '0' ≤ c && c ≤ '7'
      if isOctal c then
        let digits := c :: (rest.take 2).takeWhile isOctal
        let n := digits.foldl (fun n c => 8 * n + digitValue c) 0
        (byte n).map (·, rest.drop (digits.length - 1))
      else some (c, rest)
  if c = '\x00' then none else some (c, rest)

/-- An `E` string after its opening quote. -/
def escapedBody : Nat → List Char → Option (List Char × List Char)
  | 0, _ => none
  | _, [] => none
  | fuel + 1, '\'' :: '\'' :: rest =>
    (escapedBody fuel rest).map fun (s, after) => ('\'' :: s, after)
  | _, '\'' :: rest => some ([], rest)
  | fuel + 1, '\\' :: rest => do
    let (c, rest) ← escape? rest
    let (s, after) ← escapedBody fuel rest
    return (c :: s, after)
  | fuel + 1, c :: rest => (escapedBody fuel rest).map fun (s, after) => (c :: s, after)

/-- A `U&` string after its opening quote. -/
def unicodeBody : Nat → List Char → Option (List Char × List Char)
  | 0, _ => none
  | _, [] => none
  | fuel + 1, '\'' :: '\'' :: rest =>
    (unicodeBody fuel rest).map fun (s, after) => ('\'' :: s, after)
  | _, '\'' :: rest => some ([], rest)
  | fuel + 1, '\\' :: '\\' :: rest =>
    (unicodeBody fuel rest).map fun (s, after) => ('\\' :: s, after)
  | fuel + 1, '\\' :: rest => do
    let (count, rest) := match rest with
      | '+' :: rest => (6, rest)
      | _ => (4, rest)
    let digits := rest.take count
    if digits.length < count then none
    let c ← char? (← hexValue? digits)
    let (s, after) ← unicodeBody fuel (rest.drop count)
    return (c :: s, after)
  | fuel + 1, c :: rest => (unicodeBody fuel rest).map fun (s, after) => (c :: s, after)

/-- The text before the first `$$`, and what follows it. -/
def untilDollars : List Char → Option (List Char × List Char)
  | [] => none
  | '$' :: '$' :: rest => some ([], rest)
  | c :: rest => (untilDollars rest).map fun (s, after) => (c :: s, after)

/-- How much of a tag the text repeats, the first character that differs included. -/
def tagMatch : List Char → List Char → Bool × Nat
  | [], _ => (true, 0)
  | _, [] => (false, 0)
  | t :: tag, c :: rest =>
    if t = c then
      let (same, count) := tagMatch tag rest
      (same, count + 1)
    else (false, 1)

/-- What follows the closing tag. A dollar that begins no tag uses up what was compared with it. -/
def afterTag (tag : List Char) : Nat → List Char → Option (List Char)
  | 0, _ => none
  | fuel + 1, cs =>
    match cs.dropWhile (· != '$') with
    | [] => none
    | _ :: rest =>
      let (same, count) := tagMatch tag rest
      let after := rest.drop count
      if same then
        match after with
        | '$' :: after => some after
        | _ => afterTag tag fuel after
      else afterTag tag fuel after

/-- A dollar and what it begins: a quoted string, a tagged string or a placeholder. -/
def dollar (rest : List Char) : Step :=
  match rest with
  | '$' :: rest => (untilDollars rest).map fun (s, after) =>
    (some (.string .dollar (String.ofList s)), after)
  | _ =>
    let isTagPart (c : Char) : Bool := Text.isLetterOrNumber c || c == '_'
    let tag := rest.takeWhile isTagPart
    match rest.drop tag.length with
    | '$' :: body => (afterTag tag (body.length + 1) body).map fun after =>
      (some (.string .dollar (String.ofList (body.take (body.length - after.length)))), after)
    | after => some (some (.placeholder (String.ofList ('$' :: tag))), after)

/-- What follows a comment after its opening mark. Comments nest; each pair of neighbours that
makes a mark counts, overlapping ones too. -/
def afterComment (depth : Nat) (last : Char) : List Char → Option (List Char)
  | [] => none
  | c :: rest =>
    if last = '/' ∧ c = '*' then afterComment (depth + 1) c rest
    else if last = '*' ∧ c = '/' then
      if depth = 1 then some rest else afterComment (depth - 1) c rest
    else afterComment depth c rest

/-- The exponent at the head of the text, if it has a digit. -/
def exponent (cs : List Char) : List Char :=
  match cs with
  | c :: rest =>
    if c = 'e' ∨ c = 'E' then
      let (sign, digits) := match rest with
        | '+' :: rest => (['+'], rest)
        | '-' :: rest => (['-'], rest)
        | _ => ([], rest)
      let digits := digits.takeWhile Char.isDigit
      if digits.isEmpty then [] else c :: sign ++ digits
    else []
  | [] => []

/-- A number, or a lone point. -/
def number (cs : List Char) : Step :=
  let whole := cs.takeWhile Char.isDigit
  let rest := cs.drop whole.length
  match whole, rest with
  | ['0'], 'x' :: rest =>
    let digits := rest.takeWhile fun c => (hexDigit? c).isSome
    some (some (.string .hexadecimal (String.ofList digits)), rest.drop digits.length)
  | _, _ =>
    let (point, rest) := match rest with
      | '.' :: rest => (['.'], rest)
      | _ => ([], rest)
    let fraction := rest.takeWhile Char.isDigit
    let rest := rest.drop fraction.length
    if whole.isEmpty && fraction.isEmpty then some (some (.mark "."), rest)
    else
      let exponent := exponent rest
      let rest := rest.drop exponent.length
      let text := whole ++ point ++ fraction ++ exponent
      let (long, rest) := match rest with
        | 'L' :: rest => (true, rest)
        | _ => (false, rest)
      some (some (.number (String.ofList text) long), rest)

/-- A name or keyword. -/
def word (cs : List Char) : Step :=
  let name := match cs with
    | c :: rest => c :: rest.takeWhile isNamePart
    | [] => []
  let text := String.ofList name
  some (some (.word text (Text.upper text) false), cs.drop name.length)

/-- Operators that further operator characters make into a custom one, longer ones first. -/
def openOperators : List String :=
  ["->>", "->", "-", "||/", "||", "|/", "|", "<=>", "<=", "<>", "<<", "<@", "<", ">=", ">>", ">",
   "&&", "&", "~~*", "~~", "~*", "~", "#>>", "#>", "#-", "#", "%"]

/-- Operators and punctuation that end where they end, longer ones first. -/
def closedMarks : List String :=
  ["=>", "==", "=", "!~~*", "!~~", "!~*", "!~", "!=", "!!", "!", "::", ":=", ":", "^@", "^", "@>",
   "@?", "@@", "@", "+", "*", "/", "(", ")", ",", ";", "\\", "[", "]", "\x7b", "\x7d"]

/-- An operator or a mark, or a character that begins nothing. -/
def mark (cs : List Char) : Step :=
  let isAhead (text : String) : Bool := text.toList.isPrefixOf cs
  match openOperators.find? isAhead, closedMarks.find? isAhead, cs with
  | some text, _, _ =>
    let rest := cs.drop text.length
    let more := rest.takeWhile isOperatorPart
    if more.isEmpty then some (some (.mark text), rest)
    else some (some (.custom (text ++ String.ofList more)), rest.drop more.length)
  | none, some text, _ => some (some (.mark text), cs.drop text.length)
  | none, none, c :: rest =>
    if Text.isBlank c then some (none, rest) else some (some (.stray c), rest)
  | none, none, [] => none

/-- The token at the head of the text. -/
def step (cs : List Char) : Step :=
  let single (quoting : Quoting) (found : Option (List Char × List Char)) : Step :=
    found.map fun (s, after) => (some (.string quoting (String.ofList s)), after)
  match cs with
  | [] => none
  | ' ' :: rest => some (none, rest)
  | '\t' :: rest => some (none, rest)
  | '\n' :: rest => some (none, rest)
  | '\r' :: rest => some (none, rest)
  | 'n' :: '\'' :: rest => single .national (quotedBody '\'' true rest)
  | 'N' :: '\'' :: rest => single .national (quotedBody '\'' true rest)
  | 'x' :: '\'' :: rest => single .hexadecimal (quotedBody '\'' true rest)
  | 'X' :: '\'' :: rest => single .hexadecimal (quotedBody '\'' true rest)
  | 'e' :: '\'' :: rest => single .escaped (escapedBody (rest.length + 1) rest)
  | 'E' :: '\'' :: rest => single .escaped (escapedBody (rest.length + 1) rest)
  | 'u' :: '&' :: '\'' :: rest => single .unicode (unicodeBody (rest.length + 1) rest)
  | 'U' :: '&' :: '\'' :: rest => single .unicode (unicodeBody (rest.length + 1) rest)
  | '\'' :: rest => single .single (quotedBody '\'' false rest)
  | '"' :: rest => (quotedBody '"' false rest).map fun (s, after) =>
    (some (.word (String.ofList s) "" true), after)
  | '-' :: '-' :: rest => some (none, (rest.dropWhile (· != '\n')).drop 1)
  | '/' :: '*' :: rest => (afterComment 1 ' ' rest).map fun after => (none, after)
  | '?' :: '|' :: rest => some (some (.mark "?|"), rest)
  | '?' :: '&' :: rest => some (some (.mark "?&"), rest)
  | '?' :: rest => some (some (.mark "?"), rest.drop 1)
  | '$' :: rest => dollar rest
  | '.' :: _ => number cs
  | c :: _ => if c.isDigit then number cs else if isNameStart c then word cs else mark cs

/-- The tokens of the text; the fuel bounds their number. -/
def tokens : Nat → List Char → Option (List Token)
  | _, [] => some []
  | 0, _ => none
  | fuel + 1, cs => do
    let (token?, rest) ← step cs
    let others ← tokens fuel rest
    return token?.toList ++ others

end Lexer

/-- The tokens of SQL text, if it can be cut into tokens. -/
def tokenize (text : String) : Option (List Token) :=
  Lexer.tokens (text.length + 1) text.toList

end Clickstream.Sql
