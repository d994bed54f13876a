import SqlBuilder.Row
import SqlBuilder.Sql.Query
/-!
Drivers, which hand out connections and run statements on them, and the calls made to one.
-/
namespace SqlBuilder.Session

open Sql

-- Connections are numbered from 1 in the order in which they were acquired.
abbrev Connection := Nat

-- What a connection answers to a statement.
structure QueryResult where
  rows : List Row := []
  affected : Option UInt64 := none
  insertId : Option Int64 := none

-- How a driver with states in `σ` answers.
structure Driver (σ : Type) where
  dialect : Dialect
  acquire : σ → Except Error Unit × σ
  execute : Connection → Statement → σ → Except Error QueryResult × σ
  release : Connection → σ → Except Error Unit × σ
  destroy : σ → Except Error Unit × σ
  -- the whole milliseconds that running a statement takes
  duration : Statement → σ → Nat := fun _ _ => 0

-- A call to a driver with its answer.
inductive Call where
  | acquire (answer : Except Error Connection)
  | execute (c : Connection) (s : Statement) (answer : Except Error QueryResult)
  | release (c : Connection) (answer : Except Error Unit)
  | destroy (answer : Except Error Unit)

-- The connection that a call is about.
def Call.connection? : Call → Option Connection
  | acquire (.ok c) => some c
  | execute c _ _ => some c
  | release c _ => some c
  | _ => none

end SqlBuilder.Session
