import Clickstream.Log.Basic
import Clickstream.Query.Basic

/-! Compiled queries: a query together with its statement. -/
namespace Clickstream
open Log

structure CompiledQuery where
  query : Query
  sql : String
  deriving DecidableEq

namespace Query

/-- Only an empty query has no statement. -/
def compile (q : Query) : Except QueryError CompiledQuery :=
  if q.isEmpty then .error .empty else .ok ⟨q, q.statement⟩

/-- Compiles the query and notes its statement in the log. -/
def prepare {σ : Type} (q : Query) : Logging σ (Except QueryError CompiledQuery) := do
  match q.compile with
  | .error e => return .error e
  | .ok compiled =>
    Logging.write .debug "pixel_analytics::query::compiler" ("Compiled query: " ++ compiled.sql)
    return .ok compiled

end Query
end Clickstream
