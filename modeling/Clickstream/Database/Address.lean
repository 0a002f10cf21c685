import Clickstream.Number.Numeral
import Clickstream.Text.Blank

/-! Connection strings: pairs of a keyword and a value, which may stand in quotes. What a pair means
is checked for the keywords that say where to connect; of the others only the form of the value is. -/
namespace Clickstream.Database

namespace ConnectionString

/-- The characters of a value without quotes. A backslash makes the next character plain. -/
def simpleValue : List Char → List Char × List Char
  | [] => ([], [])
  | ['\\'] => ([], [])
  | '\\' :: c :: rest =>
    let (value, rest) := simpleValue rest
    (c :: value, rest)
  | c :: rest =>
    if Text.isBlank c then ([], c :: rest)
    else
      let (value, rest) := simpleValue rest
      (c :: value, rest)

/-- The characters of a value up to its closing quote, which must come. -/
def quotedValue? : List Char → Option (List Char × List Char)
  | [] => none
  | '\'' :: rest => some ([], rest)
  | ['\\'] => none
  | '\\' :: c :: rest => do
    let (value, rest) ← quotedValue? rest
    return (c :: value, rest)
  | c :: rest => do
    let (value, rest) ← quotedValue? rest
    return (c :: value, rest)

/-- A value; without quotes it must not be empty. -/
def value? (cs : List Char) : Option (List Char × List Char) :=
  match cs with
  | '\'' :: rest => quotedValue? rest
  | _ =>
    let (value, rest) := simpleValue cs
    if value.isEmpty then none else some (value, rest)

/-- The pairs of a text. They end with the text, or where a keyword is missing before its equals
sign; what follows is not read. The fuel bounds their number. -/
def pairs? : Nat → List Char → Option (List (String × String))
  | 0, _ => none
  | fuel + 1, cs => do
    let cs := Text.trimStart cs
    let isPart (c : Char) : Bool := !Text.isBlank c && c != '='
    let keyword := cs.takeWhile isPart
    if keyword.isEmpty then return []
    match Text.trimStart (cs.dropWhile isPart) with
    | '=' :: rest =>
      let (value, rest) ← value? (Text.trimStart rest)
      return (String.ofList keyword, String.ofList value) :: (← pairs? fuel rest)
    | _ => none

/-- The keywords whose values must be one of a few words. -/
def choices : List (String × List String) := [
  ("sslmode", ["disable", "prefer", "require"]),
  ("target_session_attrs", ["any", "read-write", "read-only"]),
  ("channel_binding", ["disable", "prefer", "require"]),
  ("load_balance_hosts", ["disable", "random"])]

/-- The keywords whose values are whole numbers, with the greatest. -/
def numbers : List (String × Nat) := [
  ("connect_timeout", UInt64.size / 2 - 1), ("tcp_user_timeout", UInt64.size / 2 - 1), ("keepalives", UInt64.size - 1),
  ("keepalives_idle", UInt64.size / 2 - 1), ("keepalives_interval", UInt64.size / 2 - 1),
  ("keepalives_retries", UInt32.size - 1)]

/-- The keywords whose values may be any text. -/
def texts : List String := ["user", "password", "dbname", "options", "application_name"]

/-- Whether a pair says something, apart from hosts and ports. -/
def accepted (keyword value : String) : Bool :=
  texts.contains keyword ||
    (choices.lookup keyword).any (·.contains value) ||
    (numbers.lookup keyword).any fun bound => (whole? bound value).isSome

end ConnectionString

/-- What a connection string says. Hosts and ports add up; of the rest the last value counts. -/
structure Address where
  hosts : List String := []
  ports : List Nat := []
  settings : List (String × String) := []
  deriving DecidableEq

namespace Address

/-- One port, or the usual one where its text is empty. -/
def port? (text : String) : Option Nat := if text = "" then some 5432 else whole? 65535 text

def addPair (a : Address) (pair : String × String) : Option Address := do
  let (keyword, value) := pair
  if keyword = "host" then return { a with hosts := a.hosts ++ Text.splitAt ',' value }
  else if keyword = "port" then
    return { a with ports := a.ports ++ (← (Text.splitAt ',' value).mapM port?) }
  else if ConnectionString.accepted keyword value then
    return { a with settings := (keyword, value) :: a.settings }
  else none

/-- Reads a connection string. -/
def read? (text : String) : Option Address := do
  let pairs ← ConnectionString.pairs? (text.length + 1) text.toList
  pairs.foldlM addPair {}

/-- There is a host, and there are as many ports as hosts unless one or none serves all. -/
def consistent (a : Address) : Bool :=
  !a.hosts.isEmpty && (a.ports.length ≤ 1 || a.ports.length == a.hosts.length)

/-- The hosts with their ports. -/
def endpoints (a : Address) : List (String × Nat) :=
  match a.ports with
  | [] => a.hosts.map (·, 5432)
  | [port] => a.hosts.map (·, port)
  | ports => a.hosts.zip ports

end Address
end Clickstream.Database
