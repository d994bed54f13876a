import SqlBuilder.Session.Handle
import SqlBuilder.Sql.Compile
/-!
Running queries and reading their results.
-/
namespace SqlBuilder.Session

open Sql

-- How much of a result is asked for.
inductive Mode where
  | all
  -- the first result if there is one
  | first
  -- the first result, which has to be there
  | firstOrThrow
  deriving DecidableEq

inductive Fetched (α : Type) where
  | all (xs : List α)
  | first (x : Option α)
  | one (x : α)

structure InsertResult where
  insertId : Option Int64
  rows : Option UInt64
  deriving DecidableEq

-- A result that has to be there.
def orNoResult (x? : Option α) : Except Error α :=
  match x? with
  | some x => .ok x
  | none => .error .noResult

-- All rows in order, or the error of the first one that cannot be read.
def readAll (l : Layout) (rows : List Row) : Except Error (List l.Carrier) := rows.mapM l.read

-- Only the first row is looked at.
def readFirst (l : Layout) : List Row → Except Error (Option l.Carrier)
  | [] => .ok none
  | r :: _ => (l.read r).map some

def readFirstOrThrow (l : Layout) (rows : List Row) : Except Error l.Carrier := do
  orNoResult (← readFirst l rows)

def fetch (mode : Mode) (l : Layout) (rows : List Row) : Except Error (Fetched l.Carrier) :=
  match mode with
  | .all => (readAll l rows).map .all
  | .first => (readFirst l rows).map .first
  | .firstOrThrow => (readFirstOrThrow l rows).map .one

-- One result for each statement that is run.
def insertResults (r : QueryResult) : List InsertResult := [⟨r.insertId, r.affected⟩]

def fetchInserted (mode : Mode) (r : QueryResult) : Except Error (Fetched InsertResult) :=
  match mode with
  | .all => .ok (.all (insertResults r))
  | .first => .ok (.first (insertResults r).head?)
  | .firstOrThrow => (orNoResult (insertResults r).head?).map .one

-- What running a query yields.
inductive Outcome where
  | rows (l : Layout) (found : Fetched l.Carrier)
  | inserted (result : Fetched InsertResult)
  | updated (count : UInt64)
  | deleted (count : UInt64)

def Outcome.ofResult (kind : Kind) (mode : Mode) (l : Layout) (r : QueryResult) : Except Error Outcome :=
  match kind with
  | .insert => (fetchInserted mode r).map .inserted
  | .update => .ok (.updated (r.affected.getD 0))
  | .delete => .ok (.deleted (r.affected.getD 0))
  | .select => (fetch mode l r.rows).map (.rows l)
  | .raw => (fetch mode l r.rows).map (.rows l)

-- Compiles a query and runs it. A query that does not compile causes nothing else.
def Handle.run (d : Driver σ) (h : Handle) (q : Query) (mode : Mode) (l : Layout) :
    Action σ (Except Error Outcome) := do
  match q.compile h.dialect with
  | .error e => return .error e
  | .ok statement =>
    match ← h.execute d statement with
    | .error e => return .error e
    | .ok result => return Outcome.ofResult q.kind mode l result

end SqlBuilder.Session
