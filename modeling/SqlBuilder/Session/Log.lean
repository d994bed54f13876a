import SqlBuilder.Sql.Query
import SqlBuilder.Text.Decimal
import SqlBuilder.Error
/-!
What a session logs.
-/
namespace SqlBuilder.Session

open Sql

inductive Level where
  | debug | warn | error
  deriving DecidableEq

-- A logged event with its fields in order.
structure LogEntry where
  level : Level
  target : String
  message : String
  fields : List (String × String)
  deriving DecidableEq

structure LogSettings where
  queries : Bool := true
  errors : Bool := true
  -- the milliseconds from which on a successful query counts as slow
  slowMillis : Option UInt64 := none
  deriving DecidableEq

def LogSettings.disabled : LogSettings := { queries := false, errors := false }

namespace LogEntry

def sqlTarget : String := "strata.sql"

def transactionTarget : String := "strata.transaction"

def statementFields (s : Statement) : List (String × String) :=
  [("sql", s.sql), ("param_count", Text.decimal s.params.length)]

def query (s : Statement) : LogEntry := ⟨.debug, sqlTarget, "query", statementFields s⟩

def slowQuery (s : Statement) (threshold : UInt64) : LogEntry :=
  ⟨.warn, sqlTarget, "slow query", [("sql", s.sql), ("threshold_ms", Text.decimal threshold.toNat)]⟩

def queryFailed (s : Statement) (e : Error) : LogEntry :=
  ⟨.error, sqlTarget, "query failed", statementFields s ++ [("error", e.message)]⟩

def began : LogEntry := ⟨.debug, transactionTarget, "begin", []⟩

def finished (action : String) : LogEntry :=
  ⟨.debug, transactionTarget, "finished", [("action", action)]⟩

def finishFailed (action : String) (e : Error) : LogEntry :=
  ⟨.error, transactionTarget, "failed", [("action", action), ("error", e.message)]⟩

def releaseFailed (e : Error) : LogEntry :=
  ⟨.warn, transactionTarget, "failed to release connection", [("error", e.message)]⟩

def rollbackFailed (e : Error) : LogEntry :=
  ⟨.warn, transactionTarget, "rollback failed", [("error", e.message)]⟩

end LogEntry

namespace LogSettings

-- What is logged about a statement that took some milliseconds and had an outcome.
def entries (l : LogSettings) (s : Statement) (millis : Nat) : Option Error → List LogEntry
  | some e => if l.errors then [.queryFailed s e] else []
  | none =>
    (if l.queries then [.query s] else []) ++
      match l.slowMillis with
      | some threshold => if threshold.toNat ≤ millis then [.slowQuery s threshold] else []
      | none => []

end LogSettings

end SqlBuilder.Session
