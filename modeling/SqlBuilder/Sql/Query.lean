import SqlBuilder.Page
import SqlBuilder.Value
/-!
The statements this library builds. Expressions, conditions and selects refer to each other, since
a select can stand wherever a value is expected.
-/
namespace SqlBuilder.Sql

-- A column, named by the table it belongs to whatever alias that table has in a query.
structure Column where
  table : String
  name : String
  deriving DecidableEq

-- A column as it is shown when inspected.
def Column.describe (c : Column) : String := c.table ++ "." ++ c.name

-- A table in a from clause, a join, an update or a delete.
structure TableRef where
  name : String
  alias? : Option String := none
  deriving DecidableEq

-- Text written by hand, with `?` where its values belong.
structure Raw where
  sql : String
  binds : List Value := []

-- What a condition can test, a query can be grouped by and a join can compare.
inductive Operand where
  | column (c : Column)
  | raw (r : Raw)

inductive Comparison where
  | eq | notEq | lt | lte | gt | gte | like | notLike | ilike | notIlike
  deriving DecidableEq

inductive Conjunction where
  | and | or
  deriving DecidableEq

inductive Direction where
  | asc | desc
  deriving DecidableEq

-- One entry of a select list.
structure Selection where
  operand : Operand
  alias? : Option String := none

-- The name of the selection's cell in a result row. Raw text without an alias has no known name.
def Selection.outputName? : Selection → Option String
  | ⟨_, some given⟩ => some given
  | ⟨.column c, none⟩ => some c.name
  | ⟨.raw _, none⟩ => none

inductive Order where
  | operand (o : Operand) (direction : Direction)
  -- the output name of a selection
  | output (name : String) (direction : Direction)
  | raw (r : Raw)
  | random

def Order.outputName? : Order → Option String
  | output name _ => some name
  | _ => none

mutual

-- What stands on the right of a comparison or is written into a column.
inductive Expr where
  | operand (o : Operand)
  | value (v : Value)
  | subquery (query : Select)

inductive Condition where
  | compare (left : Operand) (op : Comparison) (right : Expr)
  | isNull (left : Operand) (negated : Bool)
  | between (left : Operand) (negated : Bool) (low high : Expr)
  | member (left : Operand) (negated : Bool) (values : List Expr)
  | memberOf (left : Operand) (negated : Bool) (query : Select)
  | exists (negated : Bool) (query : Select)
  | group (clauses : List Clause)
  | raw (r : Raw)

-- A condition and how it continues the conditions before it.
structure Clause where
  conjunction : Conjunction
  condition : Condition

structure Join where
  table : TableRef
  on : List Clause

-- A common table expression.
structure Cte where
  name : String
  columns : List String
  body : Select

structure Select where
  ctes : List Cte
  distinct : Bool
  -- whether all columns of the first table are asked for
  whole : Bool
  selections : List Selection
  table : TableRef
  joins : List Join
  filter : List Clause
  groups : List Operand
  order : List Order
  page : Page

end

-- The assignments of one row or update, in the order in which the columns were first set.
abbrev Assignments := List (String × Expr)

-- Sets a column: one that is set again keeps its place and takes the new value.
def Assignments.set (as : Assignments) (column : String) (e : Expr) : Assignments :=
  match as with
  | [] => [(column, e)]
  | (c, old) :: rest => if c = column then (c, e) :: rest else (c, old) :: set rest column e

def Assignments.get? (as : Assignments) (column : String) : Option Expr :=
  (as.find? (·.1 = column)).map (·.2)

-- What an insert does with a row that collides with a stored one.
inductive Conflict where
  | nothing (target : List String)
  | update (target sets : List String)

inductive InsertMode where
  | insert
  | replace
  deriving DecidableEq

structure Insert where
  ctes : List Cte
  mode : InsertMode
  table : String
  rows : List Assignments
  ignore : Bool
  conflict : Option Conflict

structure Update where
  ctes : List Cte
  table : TableRef
  sets : Assignments
  filter : List Clause

structure Delete where
  ctes : List Cte
  table : TableRef
  filter : List Clause

inductive Query where
  | select (q : Select)
  | insert (q : Insert)
  | update (q : Update)
  | delete (q : Delete)

-- What a statement does. Statements that were not built from a query are raw.
inductive Kind where
  | select | insert | update | delete | raw
  deriving DecidableEq

def Query.kind : Query → Kind
  | select _ => .select
  | insert _ => .insert
  | update _ => .update
  | delete _ => .delete

-- A statement as a driver gets it: its text, and its parameters in the order of their numbers.
structure Statement where
  sql : String
  params : List Value
  kind : Kind
  deriving DecidableEq

-- A statement without parameters that is not built from a query.
def Statement.ofText (sql : String) : Statement := ⟨sql, [], .raw⟩

end SqlBuilder.Sql
