import SqlBuilder.Build.Filter
/-!
Calls that shape a select.
-/
namespace SqlBuilder.Build

open Sql

inductive SelectCall where
  | select (items : List Selection)
  | distinct
  | filter (call : FilterCall)
  | join (table : TableRef) (on : List FilterCall)
  | groupBy (operand : Operand)
  | orderBy (order : Order)
  | limit (n : UInt64)
  | offset (n : UInt64)
  | page (number perPage : UInt64)
  -- calls made while the query is handed to a function
  | call (calls : List SelectCall)

-- Ordering by an entry of the select list: by its alias if it has one, else by what it selects.
def orderOf (s : Selection) (direction : Direction) : Order :=
  match s.alias? with
  | some name => .output name direction
  | none => .operand s.operand direction

namespace SelectCall

-- A join on two operands being equal.
def joinOn (table : TableRef) (left right : Operand) : SelectCall :=
  join table [.compareOperands left .eq right]

mutual

def apply (q : Select) : SelectCall → Select
  | select items => { q with selections := q.selections ++ items }
  | distinct => { q with distinct := true }
  | filter f => { q with filter := q.filter ++ FilterCall.clauses [f] }
  | join table on => { q with joins := q.joins ++ [⟨table, FilterCall.clauses on⟩] }
  | groupBy operand => { q with groups := q.groups ++ [operand] }
  | orderBy order => { q with order := q.order ++ [order] }
  | limit n => { q with page := { q.page with limit := some n } }
  | offset n => { q with page := { q.page with offset := some n } }
  | page number perPage => { q with page := .ofNumber number perPage }
  | call calls => applyAll q calls

def applyAll (q : Select) : List SelectCall → Select
  | [] => q
  | c :: cs => applyAll (apply q c) cs

end

end SelectCall

end SqlBuilder.Build
