import Clickstream.Log.Basic
import Clickstream.Text.Blank
import Clickstream.Text.Uppercase

/-! Filters of log records, and how a setting gives one: directives between commas, then a slash and
a text that messages must contain. The text is taken as it is; it is no pattern. -/
namespace Clickstream.Log

/-- Which records are kept of the parts whose names begin with a text. -/
structure Directive where
  /-- The beginning of the names; nothing for all parts. -/
  target : Option String
  /-- The rank of the least records that are kept; zero keeps none. -/
  threshold : Nat
  deriving DecidableEq

structure Filter where
  directives : List Directive
  text : Option String := none
  deriving DecidableEq

/-- The rank that a level's name stands for, in any case. -/
def threshold? (name : String) : Option Nat :=
  ([("OFF", 0), ("ERROR", 1), ("WARN", 2), ("INFO", 3), ("DEBUG", 4), ("TRACE", 5)].find?
    fun entry => Text.sameAscii entry.1 name).map Prod.snd

namespace Directive

def beginsWith (start s : String) : Bool := start.toList.isPrefixOf s.toList

def covers (d : Directive) (target : String) : Bool :=
  match d.target with
  | none => true
  | some start => beginsWith start target

/-- How much of a name the directive fixes. -/
def length (d : Directive) : Nat := (d.target.map String.utf8ByteSize).getD 0

/-- Reads one directive. A single word is a level for all parts if it names one, and else a part
of which everything is kept. The error is the text that cannot be read. -/
def read (s : String) : Except String Directive :=
  match Text.splitAt '=' s with
  | [name] =>
    match threshold? name with
    | some threshold => .ok ⟨none, threshold⟩
    | none => .ok ⟨some name, 5⟩
  | [name, level] =>
    let level := Text.trim level
    if level = "" then .ok ⟨some name, 5⟩
    else
      match threshold? level with
      | some threshold => .ok ⟨some name, threshold⟩
      | none => .error level
  | _ => .error s

end Directive

namespace Filter

/-- Adds a directive in place of one for the same parts, or as the last. -/
def addDirective (ds : List Directive) (d : Directive) : List Directive :=
  if ds.any fun other => other.target == d.target then
    ds.map fun other => if other.target == d.target then d else other
  else ds ++ [d]

/-- Reads a filter, and the texts of its directives that cannot be read. Without any directive only
errors are kept; a text with two slashes gives none. -/
def read (s : String) : Filter × List String :=
  let errorsOnly : Directive := ⟨none, 1⟩
  match Text.splitAt '/' s with
  | first :: rest =>
    if 1 < rest.length then (⟨[errorsOnly], none⟩, [s ++ "' (too many '/'s)"])
    else
      let items := ((Text.splitAt ',' first).map Text.trim).filter fun item => item ≠ ""
      let results := items.map Directive.read
      let directives := (results.filterMap Except.toOption).foldl addDirective []
      let refused := results.filterMap fun result =>
        match result with
        | .ok _ => none
        | .error item => some (item ++ "'")
      (⟨if directives.isEmpty then [errorsOnly] else directives, rest.head?⟩, refused)
  | [] => (⟨[errorsOnly], none⟩, [])

/-- The directive that counts for a part: of those that cover it the last of the longest. -/
def directiveFor? (f : Filter) (target : String) : Option Directive :=
  f.directives.foldl (fun best d =>
    if d.covers target && (best.map Directive.length).all (· ≤ d.length) then some d else best) none

/-- The first list begins somewhere in the second. -/
def occursIn (part : List Char) : List Char → Bool
  | [] => part.isEmpty
  | c :: rest => part.isPrefixOf (c :: rest) || occursIn part rest

def keeps (f : Filter) (r : Record) : Bool :=
  (f.directiveFor? r.target).any (fun d => r.level.rank ≤ d.threshold) &&
    f.text.all fun part => occursIn part.toList r.message.toList

end Filter

/-- The lines of a record. Lines of a message after the first are indented. -/
def Record.lines (r : Record) : List String :=
  let level := r.level.name ++ String.ofList (List.replicate (5 - r.level.name.length) ' ')
  match Text.splitAt '\n' ("[" ++ level ++ " " ++ r.target ++ "] " ++ r.message) with
  | first :: rest => first :: rest.map ("    " ++ ·)
  | [] => []

end Clickstream.Log
