import SqlBuilder.Sql.Query
import SqlBuilder.Table
/-!
The builder of a row for an insert, as it is generated for a table. Its type has a parameter for each
required column, which says whether the column has a value yet.
-/
namespace SqlBuilder.Derive

open Sql

-- The types that the parameters are given: whether a required column has a value.
inductive ColumnState where
  | unset
  | set
  deriving DecidableEq

-- An argument of the builder's type in a signature.
inductive Argument where
  | param (index : Nat)
  | state (s : ColumnState)
  deriving DecidableEq

-- A generated method that sets a column.
structure Setter where
  ident : String
  column : String
  -- the type parameters of the block that it is declared in
  free : List Nat
  -- the builder's type that it is called on, and the type that it returns
  before : List Argument
  after : List Argument
  deriving DecidableEq

namespace Setter

-- What a parameter stands for in a call on a builder with these states. Only a parameter that its block
-- declares stands for anything.
def param? (m : Setter) (states : List ColumnState) (i : Nat) : Option ColumnState :=
  if i ∈ m.free then states[m.before.idxOf (.param i)]? else none

def argument? (m : Setter) (states : List ColumnState) : Argument → Option ColumnState
  | .param i => m.param? states i
  | .state s => some s

-- The states after a call on a builder with these states, if the method has such a builder.
def accept? (m : Setter) (states : List ColumnState) : Option (List ColumnState) :=
  if m.before.map (m.argument? states) = states.map some then m.after.mapM (m.argument? states) else none

end Setter

-- What is generated: the states that a builder starts with, the methods, and the states that a builder has to
-- be in to be given to an insert.
structure RowBuilder where
  start : List ColumnState
  setters : List Setter
  complete : List ColumnState

-- The parameters, with a state in the place of one of them.
def argumentsWith (count index : Nat) (s : ColumnState) : List Argument :=
  (List.range count).map fun i => if i = index then .state s else .param i

-- The method for the required column at an index. It is declared for the other parameters.
def requiredSetter (count index : Nat) (f : Field τ) : Setter where
  ident := f.ident
  column := f.column
  free := (List.range count).filter (· ≠ index)
  before := argumentsWith count index .unset
  after := argumentsWith count index .set

-- The method for a column that may be left out.
def optionalSetter (count : Nat) (f : Field τ) : Setter where
  ident := f.ident
  column := f.column
  free := List.range count
  before := (List.range count).map .param
  after := (List.range count).map .param

def rowBuilder (t : Table τ) : RowBuilder :=
  let required := t.writtenAs .required
  let count := required.length
  { start := List.replicate count .unset
    setters := required.mapIdx (requiredSetter count) ++ (t.writtenAs .optional).map (optionalSetter count)
    complete := List.replicate count .set }

-- A builder as a program has it: its type and what is set.
structure PartialRow where
  states : List ColumnState
  assignments : Assignments

namespace RowBuilder

-- Calls one after the other, if the methods allow them.
def run? (b : RowBuilder) (row : PartialRow) : List (Setter × Expr) → Option PartialRow
  | [] => some row
  | (m, e) :: calls =>
    if m ∈ b.setters then do
      let states ← m.accept? row.states
      b.run? ⟨states, row.assignments.set m.column e⟩ calls
    else none

-- The calls from the start of a row.
def row? (b : RowBuilder) (calls : List (Setter × Expr)) : Option PartialRow := b.run? ⟨b.start, []⟩ calls

-- What an insert takes from a builder: its assignments, if its type is the one that inserts take.
def finish? (b : RowBuilder) (row : PartialRow) : Option Assignments :=
  if row.states = b.complete then some row.assignments else none

end RowBuilder

end SqlBuilder.Derive
