import SqlBuilder.Session.Fetch
/-!
Sessions as scripts: steps on named handles, each answered by a report of its result and of the driver
calls and log entries since the report before it.
-/
namespace SqlBuilder.Session

open Sql

-- A handle for queries, or the owner of a transaction.
inductive Owner where
  | db (h : Handle)
  | transaction (h : Handle)

namespace Owner

def handle : Owner → Handle
  | db h => h
  | transaction h => h

def describe : Owner → String
  | db h => h.describe
  | transaction h => "Transaction \x7b db: " ++ h.describe ++ " \x7d"

end Owner

mutual

-- A step of a session whose driver has states in `σ`. The bodies of transactions yield values in `ω`.
inductive Step (σ ω : Type) where
  -- changes how the driver will answer
  | prepare (change : σ → σ)
  | run (on : String) (q : Query) (mode : Mode) (l : Layout)
  | begin (on name : String)
  | finish (on : String) (f : Finish)
  | destroy (on : String)
  | isOpen (on : String)
  | isTransaction (on : String)
  | dialect (on : String)
  | describe (on : String)
  -- another handle to the same thing
  | clone (on name : String)
  -- a handle for queries made from a transaction
  | intoDb (on name : String)
  | transaction (on name : String) (body : List (BodyStep σ ω)) (outcome : Except Error ω)

-- A step in the body of a transaction. If `ending` its failure ends the body.
structure BodyStep (σ ω : Type) where
  step : Step σ ω
  ending : Bool

end

mutual

inductive Reply (ω : Type) where
  | nothing
  | done (answer : Except Error Unit)
  | ran (answer : Except Error Outcome)
  | flag (b : Bool)
  | dialect (d : Dialect)
  | text (s : String)
  | transaction (answer : Except Error ω) (body : List (Report ω))
  | unknownHandle (name : String)

structure Report (ω : Type) where
  reply : Reply ω
  calls : List Call
  logs : List LogEntry

end

-- The error that a reply reports.
def Reply.error? : Reply ω → Option Error
  | .done answer => failure? answer
  | .ran answer => failure? answer
  | .transaction answer _ => failure? answer
  | _ => none

-- A running script: the session, its handles by name, and how much of it has been reported.
structure Script (σ : Type) where
  state : State σ
  owners : List (String × Owner)
  reportedCalls : Nat := 0
  reportedLogs : Nat := 0

namespace Script

variable {σ ω : Type}

abbrev M (σ : Type) := StateM (Script σ)

-- Performs an action of the session.
def act (a : Action σ α) : M σ α := fun s =>
  let (x, state) := a s.state
  (x, { s with state })

-- The owner that a name was given to last.
def owner? (name : String) : M σ (Option Owner) := fun s =>
  ((s.owners.find? (·.1 = name)).map (·.2), s)

def bind (name : String) (o : Owner) : M σ Unit := modify fun s => { s with owners := (name, o) :: s.owners }

def report (reply : Reply ω) : M σ (Report ω) := fun s =>
  (⟨reply, s.state.calls.drop s.reportedCalls, s.state.logs.drop s.reportedLogs⟩,
    { s with reportedCalls := s.state.calls.length, reportedLogs := s.state.logs.length })

-- The reply of a function of the handle that has a name.
def withHandle (name : String) (f : Owner → M σ (Reply ω)) : M σ (Reply ω) := do
  match ← owner? name with
  | some o => f o
  | none => return .unknownHandle name

mutual

def reply (d : Driver σ) : Step σ ω → M σ (Reply ω)
  | .prepare change => do
    act (modify fun s => { s with driver := change s.driver })
    return .nothing
  | .run on q mode l => withHandle on fun o => return .ran (← act (o.handle.run d q mode l))
  | .begin on name => withHandle on fun o => do
    match ← act (o.handle.begin d) with
    | .error e => return .done (.error e)
    | .ok t =>
      bind name (.transaction t)
      return .done (.ok ())
  | .finish on f => withHandle on fun o => return .done (← act (o.handle.finish d f))
  | .destroy on => withHandle on fun o => return .done (← act (o.handle.destroy d))
  | .isOpen on => withHandle on fun o => return .flag (← act o.handle.isOpen)
  | .isTransaction on => withHandle on fun o => return .flag o.handle.isTransaction
  | .dialect on => withHandle on fun o => return .dialect o.handle.dialect
  | .describe on => withHandle on fun o => return .text o.describe
  | .clone on name => withHandle on fun o => do
    bind name o
    return .nothing
  | .intoDb on name => withHandle on fun o => do
    bind name (.db o.handle)
    return .nothing
  | .transaction on name body outcome => withHandle on fun o => do
    match ← act (o.handle.begin d) with
    | .error e => return .transaction (.error e) []
    | .ok t =>
      bind name (.transaction t)
      let (reports, ended) ← runBody d body
      let outcome := match ended with
        | some e => .error e
        | none => outcome
      return .transaction (← act (t.conclude d outcome)) reports

-- Runs the steps of a body up to the first one whose failure ends it.
def runBody (d : Driver σ) : List (BodyStep σ ω) → M σ (List (Report ω) × Option Error)
  | [] => return ([], none)
  | ⟨step, ending⟩ :: rest => do
    let r ← report (← reply d step)
    match if ending then r.reply.error? else none with
    | some e => return ([r], some e)
    | none =>
      let (rs, ended) ← runBody d rest
      return (r :: rs, ended)

end

def runAll (d : Driver σ) : List (Step σ ω) → M σ (List (Report ω))
  | [] => return []
  | step :: rest => do
    let r ← report (← reply d step)
    return r :: (← runAll d rest)

-- The name of the handle that a script starts with.
def firstName : String := "db"

def start (h : Handle) (driver : σ) : Script σ where
  state := { driver }
  owners := [(firstName, .db h)]

def run (d : Driver σ) (h : Handle) (driver : σ) (steps : List (Step σ ω)) : List (Report ω) :=
  (runAll d steps (start h driver)).1

end Script

end SqlBuilder.Session
