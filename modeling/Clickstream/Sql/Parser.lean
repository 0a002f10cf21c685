import Clickstream.Number.Numeral
import Clickstream.Sql.Keyword
import Clickstream.Sql.Token
import Clickstream.Sql.Tree

/-! Reading token lists: the steps that all of the grammar is put together from. A failure has no
message; where the grammar tries one reading before another, the tokens are taken up again. -/
namespace Clickstream.Sql

abbrev Parser := StateT (List Token) Option

/-- What the grammar may nest: expressions of at least some binding strength, and queries. -/
structure Level where
  expr : Nat → Parser Expr
  query : Parser Query

namespace Parser

def fail {α : Type} : Parser α := fun _ => none

/-- The result of a reader, or nothing used up where it fails. -/
def attempt {α : Type} (p : Parser α) : Parser (Option α) := fun tokens =>
  match p tokens with
  | some (a, rest) => some (some a, rest)
  | none => some (none, tokens)

def peek? : Parser (Option Token) := return (← get).head?

/-- The token `n` places after the next. -/
def peekAt? (n : Nat) : Parser (Option Token) := return (← get)[n]?

def next : Parser Token := do
  match ← get with
  | [] => fail
  | token :: rest =>
    set rest
    return token

/-- Passes the next token if it satisfies the test. -/
def pass? (test : Token → Bool) : Parser Bool := do
  match ← get with
  | [] => return false
  | token :: rest =>
    if test token then
      set rest
      return true
    else return false

def keyword? (key : String) : Parser Bool := pass? (Token.isKeyword key)

def mark? (text : String) : Parser Bool := pass? (Token.isMark text)

def keyword (key : String) : Parser Unit := do unless ← keyword? key do fail

def mark (text : String) : Parser Unit := do unless ← mark? text do fail

/-- Passes these keywords if all of them follow. -/
def keywords? (keys : List String) : Parser Bool := do
  return (← attempt (keys.forM keyword)).isSome

def keywords (keys : List String) : Parser Unit := keys.forM keyword

/-- Passes the next token if it is one of these keywords. -/
def oneOf? (keys : List String) : Parser (Option String) := do
  match ← peek? with
  | some (.word _ key _) =>
    if keys.contains key then
      let _ ← next
      return some key
    else return none
  | _ => return none

def oneOf (keys : List String) : Parser String := do
  match ← oneOf? keys with
  | some key => return key
  | none => fail

/-- Whether the next token is this keyword or mark; it is not used up. -/
def keywordAhead (key : String) : Parser Bool := return (← peek?).any (Token.isKeyword key)

def markAhead (text : String) : Parser Bool := return (← peek?).any (Token.isMark text)

/-- A query follows. -/
def queryAhead : Parser Bool := return (← keywordAhead "SELECT") || (← keywordAhead "WITH")

/-- Something of which nothing is kept. -/
def skip {α : Type} (p : Parser α) : Parser Unit := do let _ ← p

/-- Something after these keywords, if they follow. -/
def after? {α : Type} (keys : List String) (p : Parser α) : Parser Unit := do
  if ← keywords? keys then skip p

/-- Passes one of these phrases if one follows. -/
def phrase? (phrases : List (List String)) : Parser Bool := phrases.anyM keywords?

def phrase (phrases : List (List String)) : Parser Unit := do unless ← phrase? phrases do fail

/-- The readers that are left when one of them has passed something. -/
def passOne? : List (Parser Bool) → Parser (Option (List (Parser Bool)))
  | [] => return none
  | p :: ps => do
    if ← p then return some ps
    return (← passOne? ps).map (p :: ·)

/-- What these readers find, in any order. The fuel bounds how much. -/
def passEach : Nat → List (Parser Bool) → Parser Unit
  | 0, _ => return ()
  | fuel + 1, ps => do
    match ← passOne? ps with
    | some rest => passEach fuel rest
    | none => return ()

/-- What these readers find, in any order and each at most once. -/
def eachOnce (ps : List (Parser Bool)) : Parser Unit := passEach ps.length ps

/-- Items with this mark between them. The fuel bounds their number. -/
def separated {α : Type} (separator : String) (item : Parser α) : Nat → Parser (List α)
  | 0 => fail
  | fuel + 1 => do
    let a ← item
    if ← mark? separator then return a :: (← separated separator item fuel)
    else return [a]

/-- Items with commas between them, at least one. -/
def list {α : Type} (item : Parser α) : Parser (List α) := do
  separated "," item ((← get).length + 1)

/-- Repeats a reader until it gives nothing. The fuel bounds the number of its results. -/
def repeated {α : Type} (item : Parser (Option α)) : Nat → Parser (List α)
  | 0 => fail
  | fuel + 1 => do
    match ← item with
    | some a => return a :: (← repeated item fuel)
    | none => return []

def many {α : Type} (item : Parser (Option α)) : Parser (List α) := do
  repeated item ((← get).length + 1)

/-- Repeats a reader until it finds nothing. -/
def exhaust (item : Parser Bool) : Parser Unit :=
  skip <| many do if ← item then return some () else return none

/-- Something in parentheses. -/
def parens {α : Type} (inner : Parser α) : Parser α := do
  mark "("
  let a ← inner
  mark ")"
  return a

/-- A list in parentheses, which may be empty. -/
def parensList {α : Type} (item : Parser α) : Parser (List α) := do
  mark "("
  if ← mark? ")" then return []
  let items ← list item
  mark ")"
  return items

/-- A name: any word, or a string in single quotes. -/
def name : Parser Name := do
  match ← next with
  | .word text _ quoted => return Name.ofWord text quoted
  | .string .single text => return ⟨text, some '\''⟩
  | _ => fail

/-- A name in parts. -/
def path : Parser (List Name) := do separated "." name ((← get).length + 1)

def names : Parser Unit := skip (list name)

def paths : Parser Unit := skip (list path)

/-- A name in parts, up to the token where a part is missing, which is passed too. -/
def pathOrToken : Nat → Parser Unit
  | 0 => return ()
  | fuel + 1 => do
    match ← peek? with
    | some (.word ..) | some (.string .single _) =>
      skip next
      if ← mark? "." then pathOrToken fuel
    | some _ => skip next
    | none => return ()

/-- A name in parts, or whatever stands where one is missing. -/
def path? : Parser Unit := do pathOrToken ((← get).length + 1)

/-- A word that is no keyword, or a string in one of the forms that stand for text. -/
def textLiteral : Parser String := do
  match ← next with
  | .word text key _ => if Keyword.all.contains key then fail else return text
  | .string .single text => return text
  | .string .escaped text => return text
  | .string .unicode text => return text
  | _ => fail

/-- A whole number without a sign. -/
def whole : Parser Nat := do
  match ← next with
  | .number text _ =>
    match digits? text.toList with
    | some n => if n < UInt64.size then return n else fail
    | none => fail
  | _ => fail

/-- What makes a placeholder of the mark before it: a word, or a number that is not long. -/
def placeholderName : Parser Expr := do
  match ← next with
  | .word text _ _ => return .literal text
  | .number text false => return .literal text
  | _ => fail

/-- A literal value. -/
def value : Parser Expr := do
  match ← next with
  | .word text key quoted =>
    if quoted || ["TRUE", "FALSE", "NULL"].contains key then return .literal text else fail
  | .number text _ => return .literal text
  | .string _ text => return .literal text
  | .placeholder text => return .literal text
  | .mark ":" => placeholderName
  | .mark "@" => placeholderName
  | _ => fail

/-- A number literal. -/
def numberValue : Parser Expr := do
  match ← next with
  | .number text _ => return .literal text
  | _ => fail

/-- An alias, if one follows. Any word may follow `AS`, but only words outside the list without. -/
def alias? (reserved : List String) : Parser (Option Name) := do
  let announced ← keyword? "AS"
  match ← peek? with
  | some (.word text key quoted) =>
    if announced || !reserved.contains key then
      let _ ← next
      return some (Name.ofWord text quoted)
    else return none
  | some (.string .single text) =>
    let _ ← next
    return some ⟨text, some '\''⟩
  | _ => if announced then fail else return none

/-- Names of columns in parentheses, if they follow. -/
def columns? : Parser (List Name) := do
  if ← markAhead "(" then parens (list name) else return []

/-- A table's alias with names for its columns, if one follows. -/
def tableAlias? : Parser (Option Name) := do
  match ← alias? Keyword.notTableAlias with
  | some aliasName =>
    let _ ← columns?
    return some aliasName
  | none => return none

end Parser
end Clickstream.Sql
