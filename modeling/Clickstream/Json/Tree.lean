import Clickstream.Number.Layout

/-! JSON documents as trees, written compactly or over indented lines. Members keep their order. -/
namespace Clickstream.Json

inductive Tree where
  | null
  | number (x : Binary64)
  | integer (i : Int)
  | text (s : String)
  | list (items : List Tree)
  | record (members : List (String × Tree))

/-- One character inside the quotes: control characters, the quote and the backslash have escapes. -/
def escape (c : Char) : List Char :=
  match c with
  | '"' => ['\\', '"']
  | '\\' => ['\\', '\\']
  | '\x08' => ['\\', 'b']
  | '\x09' => ['\\', 't']
  | '\x0a' => ['\\', 'n']
  | '\x0c' => ['\\', 'f']
  | '\x0d' => ['\\', 'r']
  | _ =>
    if c.toNat < 0x20 then
      let digits := Nat.toDigits 16 c.toNat
      ['\\', 'u'] ++ List.replicate (4 - digits.length) '0' ++ digits
    else [c]

def textChars (s : String) : List Char := ['"'] ++ s.toList.flatMap escape ++ ['"']

/-- JSON has no form for numbers that are not finite: they are written as null. -/
def numberChars (x : Binary64) : List Char :=
  if x.isFinite then (Layout.json.text x).toList else "null".toList

/-- The line break before an entry at this depth, when lines are used. -/
def lineBreak : Option Nat → List Char
  | none => []
  | some depth => '\n' :: List.replicate (2 * depth) ' '

/-- Written entries between brackets; none of them leaves nothing between. -/
def enclosed (depth : Option Nat) (opening closing : Char) (entries : List (List Char)) :
    List Char :=
  match entries with
  | [] => [opening, closing]
  | first :: others =>
    let inner := lineBreak (depth.map (· + 1))
    [opening] ++ inner ++ first ++ others.flatMap (fun entry => ',' :: inner ++ entry) ++
      lineBreak depth ++ [closing]

namespace Tree

mutual

/-- The document at a depth of indentation, or on one line when there is none. -/
def chars (depth : Option Nat) : Tree → List Char
  | .null => "null".toList
  | .number x => numberChars x
  | .integer i => (toString i).toList
  | .text s => textChars s
  | .list items => enclosed depth '[' ']' (itemsChars (depth.map (· + 1)) items)
  | .record members => enclosed depth '\x7b' '\x7d' (membersChars (depth.map (· + 1)) members)

def itemsChars (depth : Option Nat) : List Tree → List (List Char)
  | [] => []
  | item :: items => chars depth item :: itemsChars depth items

def membersChars (depth : Option Nat) : List (String × Tree) → List (List Char)
  | [] => []
  | (key, value) :: members =>
    let colon := if depth.isNone then [':'] else [':', ' ']
    (textChars key ++ colon ++ chars depth value) :: membersChars depth members

end

/-- The document on one line without blanks. -/
def compact (t : Tree) : String := String.ofList (t.chars none)

/-- The document with one entry a line, indented by two spaces. -/
def pretty (t : Tree) : String := String.ofList (t.chars (some 0))

end Tree
end Clickstream.Json
