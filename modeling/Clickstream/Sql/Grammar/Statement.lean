import Clickstream.Sql.Grammar.Alteration
import Clickstream.Sql.Grammar.Command
import Clickstream.Sql.Grammar.Query
import Clickstream.Sql.Grammar.Transfer
import Clickstream.Sql.Lexer

/-! The grammar of statements. Of those that are no queries nothing is kept: they are read so that a
text of several statements is told from one that is no SQL. -/
namespace Clickstream.Sql
namespace Parser

/-- The statements that are no queries, by their first words. -/
def commands {α : Type} (lower : Level) (one : Parser α) : List (String × Parser Unit) :=
  [("ALTER", alter lower), ("ANALYZE", analyze lower), ("ASSERT", assert lower),
   ("ATTACH", attach lower), ("BEGIN", beginTransaction), ("CACHE", cache lower),
   ("CALL", callProcedure lower), ("CLOSE", close), ("COMMENT", comment), ("COMMIT", chain?),
   ("COPY", copy lower), ("CREATE", create lower one), ("DEALLOCATE", deallocate),
   ("DECLARE", declare lower), ("DELETE", delete lower),
   ("DISCARD", skip (oneOf ["ALL", "PLANS", "SEQUENCES", "TEMP", "TEMPORARY"])),
   ("DROP", drop lower), ("END", chain?), ("EXECUTE", execute lower), ("FETCH", fetchRows),
   ("GRANT", grant), ("INSERT", insert lower), ("KILL", kill), ("MERGE", merge lower),
   ("MSCK", repair), ("PRAGMA", pragma), ("PREPARE", prepare one), ("RELEASE", release),
   ("REVOKE", revoke), ("ROLLBACK", rollback), ("SAVEPOINT", skip name), ("SET", assign lower),
   ("SHOW", present lower), ("START", startTransaction), ("TRUNCATE", truncate lower),
   ("UNCACHE", uncache), ("UNLOAD", unload lower), ("UPDATE", update lower), ("USE", skip path)]

/-- The explanation of a statement, which must explain nothing itself, or of a table. -/
def explain (one : Parser Statement) : Parser Unit := do
  skip (keyword? "ANALYZE")
  skip (keyword? "VERBOSE")
  after? ["FORMAT"] (oneOf ["TEXT", "GRAPHVIZ", "JSON"])
  match ← attempt one with
  | some .explanation => fail
  | some _ => return ()
  | none =>
    skip (oneOf? ["EXTENDED", "FORMATTED"])
    skip path

/-- A statement over what it may nest: expressions and queries, and other statements. -/
def statementOver (lower : Level) (one : Parser Statement) : Parser Statement := do
  if (← queryAhead) || (← keywordAhead "VALUES") || (← markAhead "(") then
    return .query (← lower.query)
  match ← next with
  | .word _ key _ =>
    if ["EXPLAIN", "DESCRIBE", "DESC"].contains key then
      explain one
      return .explanation
    match (commands lower one).lookup key with
    | some command =>
      command
      return .other
    | none => fail
  | _ => fail

/-- Statements that nest at most `depth` deep, with the queries and expressions in them. -/
def statement : Nat → Parser Statement
  | 0 => fail
  | depth + 1 => statementOver (level depth) (statement depth)

end Parser

/-- How deep statements, queries and expressions may nest. -/
def nestingLimit : Nat := 50

/-- The statements in a text, unless the text is no SQL. -/
def Statement.readAll (text : String) : Option (List Statement) := do
  let tokens ← tokenize text
  let one := Parser.statement nestingLimit
  let (found, _) ← (Parser.statements one (tokens.length + 1)).run tokens
  return found

end Clickstream.Sql
