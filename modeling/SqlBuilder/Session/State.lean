import SqlBuilder.Session.Driver
import SqlBuilder.Session.Log
/-!
The state of a session: that of its driver, the connections held by transactions, and what has
happened so far.
-/
namespace SqlBuilder.Session

open Sql

structure State (σ : Type) where
  driver : σ
  -- how many connections have been acquired
  acquired : Nat := 0
  -- the connection of each transaction in the order in which they began, none once it is finished
  held : List (Option Connection) := []
  -- all calls to the driver and all that was logged, in order
  calls : List Call := []
  logs : List LogEntry := []

abbrev Action (σ : Type) := StateM (State σ)

namespace Action

variable {σ : Type}

def log (e : LogEntry) : Action σ Unit := modify fun s => { s with logs := s.logs ++ [e] }

def logAll (es : List LogEntry) : Action σ Unit := modify fun s => { s with logs := s.logs ++ es }

-- A connection that the driver hands out gets the next number.
def acquire (d : Driver σ) : Action σ (Except Error Connection) := fun s =>
  match d.acquire s.driver with
  | (.ok (), driver) =>
    let c := s.acquired + 1
    (.ok c, { s with driver, acquired := c, calls := s.calls ++ [.acquire (.ok c)] })
  | (.error e, driver) => (.error e, { s with driver, calls := s.calls ++ [.acquire (.error e)] })

def execute (d : Driver σ) (c : Connection) (statement : Statement) : Action σ (Except Error QueryResult) :=
  fun s =>
    let (answer, driver) := d.execute c statement s.driver
    (answer, { s with driver, calls := s.calls ++ [.execute c statement answer] })

def release (d : Driver σ) (c : Connection) : Action σ (Except Error Unit) := fun s =>
  let (answer, driver) := d.release c s.driver
  (answer, { s with driver, calls := s.calls ++ [.release c answer] })

def destroy (d : Driver σ) : Action σ (Except Error Unit) := fun s =>
  let (answer, driver) := d.destroy s.driver
  (answer, { s with driver, calls := s.calls ++ [.destroy answer] })

-- The connection of a transaction while it is open.
def heldBy (slot : Nat) : Action σ (Option Connection) := fun s => (s.held[slot]?.join, s)

-- Takes the connection from a transaction, which is closed from then on.
def takeHeld (slot : Nat) : Action σ (Option Connection) := fun s =>
  (s.held[slot]?.join, { s with held := s.held.set slot none })

-- Gives a connection to a new transaction.
def hold (c : Connection) : Action σ Nat := fun s => (s.held.length, { s with held := s.held ++ [some c] })

end Action

end SqlBuilder.Session
