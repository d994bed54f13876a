import SqlBuilder.Session.Driver
/-!
Drivers whose answers are laid down beforehand, and which of the calls to them they keep a record of.
-/
namespace SqlBuilder.Session

open Sql

-- Answers still to be given, each kind in its own order. With none left a call succeeds.
structure Answers where
  -- a message makes the call fail
  acquire : List (Option String) := []
  execute : List (Except Error QueryResult) := []
  release : List (Option String) := []

namespace Answers

def ofMessage : Option String → Except Error Unit
  | some message => .error (.driver message)
  | none => .ok ()

def nextAcquire (a : Answers) : Except Error Unit × Answers :=
  (ofMessage a.acquire.head?.join, { a with acquire := a.acquire.tail })

def nextExecute (a : Answers) : Except Error QueryResult × Answers :=
  (a.execute.head?.getD (.ok {}), { a with execute := a.execute.tail })

def nextRelease (a : Answers) : Except Error Unit × Answers :=
  (ofMessage a.release.head?.join, { a with release := a.release.tail })

def addAcquire (m : Option String) (a : Answers) : Answers := { a with acquire := a.acquire ++ [m] }

def addExecute (r : Except Error QueryResult) (a : Answers) : Answers :=
  { a with execute := a.execute ++ [r] }

def addRelease (m : Option String) (a : Answers) : Answers := { a with release := a.release ++ [m] }

end Answers

inductive Recorder where
  -- answers and records everything
  | full
  -- has nothing of its own to do when a connection is released or the driver is closed
  | plain
  -- answers every statement with an empty result and records nothing
  | silent
  deriving DecidableEq

namespace Recorder

def driver (r : Recorder) (d : Dialect) : Driver Answers where
  dialect := d
  acquire a := if r = silent then (.ok (), a) else a.nextAcquire
  execute _ _ a := if r = silent then (.ok {}, a) else a.nextExecute
  release _ a := if r = full then a.nextRelease else (.ok (), a)
  destroy a := (.ok (), a)

-- Whether a call leaves a record.
def records (r : Recorder) : Call → Bool
  | .acquire _ => r ≠ silent
  | .execute .. => r ≠ silent
  | .release .. => r = full
  | .destroy _ => r = full

end Recorder

end SqlBuilder.Session
