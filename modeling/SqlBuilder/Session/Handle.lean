import SqlBuilder.Build.Plan
import SqlBuilder.Session.State
/-!
Handles, through which queries are run and transactions begun and finished.
-/
namespace SqlBuilder.Session

open Sql

-- Where a handle gets a connection from.
inductive Source where
  -- nowhere: queries can only be compiled
  | none
  -- a fresh one for every query
  | driver
  -- the one that a transaction holds
  | transaction (slot : Nat)
  deriving DecidableEq

structure Handle where
  dialect : Dialect
  source : Source
  log : LogSettings
  deriving DecidableEq

inductive Finish where
  | commit | rollback
  deriving DecidableEq

namespace Finish

def label : Finish → String
  | commit => "Commit"
  | rollback => "Rollback"

def statement : Finish → Statement
  | commit => .ofText "commit"
  | rollback => .ofText "rollback"

end Finish

-- The failure of a call, if it failed.
def failure? : Except Error α → Option Error
  | .ok _ => none
  | .error e => some e

-- The second outcome counts only if the first one is a success.
def firstFailure (a : Except Error α) (b : Except Error Unit) : Except Error α :=
  match a, b with
  | .error e, _ => .error e
  | .ok _, .error e => .error e
  | .ok x, .ok () => .ok x

namespace Handle

variable {σ : Type}

def compileOnly (d : Dialect) : Handle := ⟨d, .none, .disabled⟩

def ofDriver (d : Driver σ) (log : LogSettings) : Handle := ⟨d.dialect, .driver, log⟩

def isTransaction (h : Handle) : Bool :=
  match h.source with
  | .transaction _ => true
  | _ => false

-- Logs a statement that was run, with its outcome.
def logStatement (d : Driver σ) (h : Handle) (statement : Statement) (outcome : Except Error QueryResult) :
    Action σ Unit := do
  let millis := d.duration statement (← get).driver
  Action.logAll (h.log.entries statement millis (failure? outcome))

-- Runs a statement on a fresh connection or on that of the handle's transaction. The fresh one is
-- released even if the statement fails. Where no connection can be acquired nothing is logged.
def execute (d : Driver σ) (h : Handle) (statement : Statement) : Action σ (Except Error QueryResult) := do
  match h.source with
  | .none =>
    let outcome := .error .noExecutor
    h.logStatement d statement outcome
    return outcome
  | .driver =>
    match ← Action.acquire d with
    | .error e => return .error e
    | .ok c =>
      let answer ← Action.execute d c statement
      let released ← Action.release d c
      let outcome := firstFailure answer released
      h.logStatement d statement outcome
      return outcome
  | .transaction slot =>
    let outcome ← match ← Action.heldBy slot with
      | some c => Action.execute d c statement
      | none => pure (.error .transactionClosed)
    h.logStatement d statement outcome
    return outcome

-- Begins a transaction on a fresh connection, which is released again if the statement fails.
def begin (d : Driver σ) (h : Handle) : Action σ (Except Error Handle) := do
  match h.source with
  | .none => return .error .noExecutor
  | .transaction _ => return .error .nestedTransaction
  | .driver =>
    match ← Action.acquire d with
    | .error e => return .error e
    | .ok c =>
      match ← Action.execute d c (.ofText d.dialect.beginStatement) with
      | .error e =>
        if let .error e' ← Action.release d c then
          Action.log (.releaseFailed e')
        return .error e
      | .ok _ =>
        Action.log .began
        let slot ← Action.hold c
        return .ok { h with source := .transaction slot }

-- Whether the handle's transaction has not been finished.
def isOpen (h : Handle) : Action σ Bool :=
  match h.source with
  | .transaction slot => return (← Action.heldBy slot).isSome
  | _ => return false

-- Closes the handle's transaction, sends the statement that finishes it and releases its connection.
def finish (d : Driver σ) (h : Handle) (f : Finish) : Action σ (Except Error Unit) := do
  match h.source with
  | .transaction slot =>
    match ← Action.takeHeld slot with
    | none => return .error .transactionClosed
    | some c =>
      let answer ← Action.execute d c f.statement
      let released ← Action.release d c
      match answer with
      | .ok _ =>
        Action.log (.finished f.label)
        return released
      | .error e =>
        Action.log (.finishFailed f.label e)
        return .error e
  | _ => return .error .transactionClosed

-- Finishes a transaction by the outcome of what was done in it, unless it is finished already. The
-- outcome stands, but for a commit that fails.
def conclude (d : Driver σ) (h : Handle) (outcome : Except Error α) : Action σ (Except Error α) := do
  match outcome with
  | .ok x =>
    if ← h.isOpen then
      match ← h.finish d .commit with
      | .ok () => return .ok x
      | .error e => return .error e
    else return .ok x
  | .error e =>
    if ← h.isOpen then
      if let .error e' ← h.finish d .rollback then
        Action.log (.rollbackFailed e')
    return .error e

-- Closes the driver. A handle without one has nothing to close.
def destroy (d : Driver σ) (h : Handle) : Action σ (Except Error Unit) :=
  match h.source with
  | .none => return .ok ()
  | _ => Action.destroy d

-- What runs the handle's queries, as it is shown when inspected.
def describeExecutor (h : Handle) : String :=
  "QueryExecutor \x7b dialect: " ++ h.dialect.label ++ ", provider: \"" ++ provider ++ "\" \x7d"
where
  provider : String :=
    match h.source with
    | .none => "noop"
    | .driver => "driver"
    | .transaction _ => "transaction"

-- The handle as it is shown when inspected.
def describe (h : Handle) : String :=
  "Db \x7b creator: " ++ ({} : Build.Creator).describe h.describeExecutor ++ " \x7d"

end Handle

end SqlBuilder.Session
