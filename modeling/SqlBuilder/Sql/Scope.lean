import SqlBuilder.Sql.Ident
import SqlBuilder.Sql.Query
/-!
The tables visible where a column is written, and how the column is qualified there.
-/
namespace SqlBuilder.Sql

-- The tables of one from-list.
abbrev Scope := List TableRef

namespace Scope

-- Whether columns of the scope's own tables need a qualifier: several tables or any alias.
def qualifies (s : Scope) : Bool := s.length > 1 || s.any (·.alias?.isSome)

-- The qualifier of a column of `table`, given the visible scopes from the innermost outwards.
-- The first scope that has the table decides. Tables of outer scopes are always qualified, and so
-- is a table that no scope has.
def qualifier? (table : String) (outer : Bool) : List Scope → Option String
  | [] => some table
  | s :: rest =>
    match s.find? (·.name = table) with
    | some entry =>
      match entry.alias? with
      | some given => some given
      | none => if s.qualifies || outer then some table else none
    | none => qualifier? table true rest

end Scope

-- A column as it is written inside scopes, qualified as they demand.
def Column.text (d : Dialect) (scopes : List Scope) (c : Column) : String :=
  match Scope.qualifier? c.table false scopes with
  | some q => ident d q ++ "." ++ ident d c.name
  | none => ident d c.name

end SqlBuilder.Sql
