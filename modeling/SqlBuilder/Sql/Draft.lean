import SqlBuilder.Error
import SqlBuilder.Sql.Scope
/-!
A statement while it is being written, and the steps that write to it.
-/
namespace SqlBuilder.Sql

structure Draft where
  sql : String := ""
  params : List Value := []
  -- how many placeholders have been written
  placeholders : Nat := 0
  -- the scopes around the part that is being written, the innermost first
  scopes : List Scope := []
  -- why writing was stopped, if a step has said so
  fault? : Option Error := none

-- A step that writes to a draft. It may stop all writing, and then leaves what it has written. Why it
-- stopped is for the draft to hold.
abbrev Writer := EStateM Unit Draft Unit

namespace Writer

def text (s : String) : Writer := modify fun draft => { draft with sql := draft.sql ++ s }

-- Stops writing for a reason.
def stop (e : Error) : Writer := fun draft => .error () { draft with fault? := some e }

-- Adds a parameter and the placeholder with its number.
def param (d : Dialect) (v : Value) : Writer := modify fun draft =>
  let n := draft.placeholders + 1
  { draft with sql := draft.sql ++ d.placeholder n, params := draft.params ++ [v], placeholders := n }

-- A column inside the scopes around it.
def column (d : Dialect) (c : Column) : Writer := fun draft => text (c.text d draft.scopes) draft

-- Runs a step inside a scope, which ends with the step however the step ends.
def inScope (s : Scope) (w : Writer) : Writer := fun draft =>
  match w { draft with scopes := s :: draft.scopes } with
  | .ok a after => .ok a { after with scopes := after.scopes.tail }
  | .error e after => .error e { after with scopes := after.scopes.tail }

-- Runs steps in order, each led by its text.
def eachLed : List (String × Writer) → Writer
  | [] => pure ()
  | (lead, w) :: rest => do
    text lead
    w
    eachLed rest

-- Runs steps in order, each but the first led by its text.
def joined : List (String × Writer) → Writer
  | [] => pure ()
  | (_, w) :: rest => do
    w
    eachLed rest

def separated (separator : String) (ws : List Writer) : Writer :=
  joined (ws.map fun w => (separator, w))

-- Joined steps between two texts, all of it left out when there are no steps.
def clause (before : String) (ws : List (String × Writer)) (after : String := "") : Writer :=
  match ws with
  | [] => pure ()
  | _ :: _ => do
    text before
    joined ws
    text after

def listClause (before : String) (ws : List Writer) (after : String := "") : Writer :=
  clause before (ws.map fun w => (", ", w)) after

end Writer

end SqlBuilder.Sql
