import Clickstream.Sql.Grammar.Definition

/-! The grammar of transactions: their beginning, their modes, their savepoints and their end. -/
namespace Clickstream.Sql.Parser

/-- The modes of a transaction, with or without commas between them. -/
def transactionModes : Parser Unit := exhaust do
  let found ← phrase? [["ISOLATION", "LEVEL", "READ", "UNCOMMITTED"],
    ["ISOLATION", "LEVEL", "READ", "COMMITTED"], ["ISOLATION", "LEVEL", "REPEATABLE", "READ"],
    ["ISOLATION", "LEVEL", "SERIALIZABLE"], ["READ", "ONLY"], ["READ", "WRITE"]]
  if found then
    if ← mark? "," then
      unless (← keywordAhead "ISOLATION") || (← keywordAhead "READ") do fail
  return found

/-- Whether another transaction follows, at the end of one. -/
def chain? : Parser Unit := do
  skip (oneOf? ["TRANSACTION", "WORK"])
  after? ["AND"] do
    skip (keyword? "NO")
    keyword "CHAIN"

def startTransaction : Parser Unit := do
  keyword "TRANSACTION"
  transactionModes

def beginTransaction : Parser Unit := do
  skip (oneOf? ["TRANSACTION", "WORK"])
  transactionModes

/-- The end of a transaction that undoes it, or what came after a savepoint. -/
def rollback : Parser Unit := do
  chain?
  after? ["TO"] do
    skip (keyword? "SAVEPOINT")
    skip name

def release : Parser Unit := do
  skip (keyword? "SAVEPOINT")
  skip name

end Clickstream.Sql.Parser
