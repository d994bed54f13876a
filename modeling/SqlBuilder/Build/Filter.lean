import SqlBuilder.Sql.Query
/-!
Calls that add conditions to a query, a join or a group.
-/
namespace SqlBuilder.Build

open Sql

inductive FilterCall where
  | test (conjunction : Conjunction) (condition : Condition)
  | group (conjunction : Conjunction) (calls : List FilterCall)

namespace FilterCall

-- Both sides of the test are columns or raw text.
def compareOperands (left : Operand) (op : Comparison) (right : Operand) : FilterCall :=
  test .and (.compare left op (.operand right))

mutual

-- A group whose calls add nothing adds nothing itself.
def clause? : FilterCall → Option Clause
  | test conjunction condition => some ⟨conjunction, condition⟩
  | group conjunction calls =>
    match clauses calls with
    | [] => none
    | c :: cs => some ⟨conjunction, .group (c :: cs)⟩

def clauses : List FilterCall → List Clause
  | [] => []
  | f :: fs => (clause? f).toList ++ clauses fs

end

end FilterCall

end SqlBuilder.Build
