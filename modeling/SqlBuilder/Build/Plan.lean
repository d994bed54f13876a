import SqlBuilder.Build.Select
import SqlBuilder.Dialect
/-!
Whole queries as calls: a creator with its common table expressions, the start of a query, and the
calls that follow.
-/
namespace SqlBuilder.Build

open Sql

inductive InsertCall where
  -- rows, each as the calls that set its columns
  | values (rows : List (List (String × Expr)))
  | ignore
  | onConflict (conflict : Conflict)

-- The assignments that setting columns one after the other leaves.
def assignments (sets : List (String × Expr)) : Assignments :=
  sets.foldl (fun as (column, e) => as.set column e) []

def InsertCall.apply (q : Insert) : InsertCall → Insert
  | values rows => { q with rows := q.rows ++ rows.map assignments }
  | ignore => { q with ignore := true }
  | onConflict conflict => { q with conflict := some conflict }

inductive UpdateCall where
  | set (column : String) (e : Expr)
  | filter (call : FilterCall)

def UpdateCall.apply (q : Update) : UpdateCall → Update
  | set column e => { q with sets := q.sets.set column e }
  | filter f => { q with filter := q.filter ++ FilterCall.clauses [f] }

def applyFilter (q : Delete) (f : FilterCall) : Delete :=
  { q with filter := q.filter ++ FilterCall.clauses [f] }

-- A select of nothing yet from one table, or of all its columns if `whole`.
def startSelect (ctes : List Cte) (table : TableRef) (whole : Bool) : Select where
  ctes
  distinct := false
  whole
  selections := []
  table
  joins := []
  filter := []
  groups := []
  order := []
  page := {}

-- What builds the subqueries of another query.
structure ExpressionBuilder where
  dialect : Dialect

namespace ExpressionBuilder

-- Common table expressions are left to the query that the subquery stands in.
def select (_ : ExpressionBuilder) (table : TableRef) (whole : Bool) : Select := startSelect [] table whole

-- A builder as it is shown when inspected.
def describe (builder : ExpressionBuilder) : String :=
  "ExpressionBuilder \x7b dialect: " ++ builder.dialect.label ++ " \x7d"

end ExpressionBuilder

-- Where queries are started. Each takes the common table expressions declared so far.
structure Creator where
  ctes : List Cte := []

namespace Creator

def select (creator : Creator) (table : TableRef) (whole : Bool) : Select := startSelect creator.ctes table whole

-- The builder of subqueries, given the dialect of what the creator runs its queries with.
def expressionBuilder (_ : Creator) (d : Dialect) : ExpressionBuilder := ⟨d⟩

-- Declares a common table expression. The expressions that its body was built with are written in
-- front of the whole query and so are dropped from the body.
def declare (creator : Creator) (name : String) (columns : List String) (body : Select) : Creator :=
  ⟨creator.ctes ++ [⟨name, columns, { body with ctes := [] }⟩]⟩

def insert (creator : Creator) (mode : InsertMode) (table : String) : Insert where
  ctes := creator.ctes
  mode
  table
  rows := []
  ignore := false
  conflict := none

def update (creator : Creator) (table : TableRef) : Update where
  ctes := creator.ctes
  table
  sets := []
  filter := []

def delete (creator : Creator) (table : TableRef) : Delete where
  ctes := creator.ctes
  table
  filter := []

-- A creator as it is shown when inspected, given what it runs its queries with.
def describe (creator : Creator) (executor : String) : String :=
  "QueryCreator \x7b executor: " ++ executor ++ ", ctes: " ++ Text.decimal creator.ctes.length ++ " \x7d"

end Creator

-- A query as its start and the calls made on it.
inductive Plan where
  | select (start : Select) (calls : List SelectCall)
  | insert (start : Insert) (calls : List InsertCall)
  | update (start : Update) (calls : List UpdateCall)
  | delete (start : Delete) (calls : List FilterCall)

namespace Plan

-- The query that the calls lead to.
def query : Plan → Query
  | select q calls => .select (SelectCall.applyAll q calls)
  | insert q calls => .insert (calls.foldl InsertCall.apply q)
  | update q calls => .update (calls.foldl UpdateCall.apply q)
  | delete q calls => .delete (calls.foldl applyFilter q)

-- The plans with fewer of the calls, from none to all of them.
def stages : Plan → List Plan
  | select q calls => (beginnings calls).map (select q)
  | insert q calls => (beginnings calls).map (insert q)
  | update q calls => (beginnings calls).map (update q)
  | delete q calls => (beginnings calls).map (delete q)
where
  beginnings {α : Type} (xs : List α) : List (List α) := (List.range (xs.length + 1)).map xs.take

end Plan

end SqlBuilder.Build
