import SqlBuilder.Sql.Draft
import SqlBuilder.Sql.Raw
import SqlBuilder.Sql.Spelling
/-!
How each part of a query is written. A query compiles to the statement that is left in the draft
when the writer of the query has run from an empty one.
-/
namespace SqlBuilder.Sql

open Writer

-- The binds take the places of the placeholders in turn, and none may be left over.
def Raw.fill (d : Dialect) (r : Raw) : List Raw.Mark → List Value → Writer
  | [], [] => pure ()
  | [], _ :: _ => stop (tooManyBinds r)
  | .char c :: ms, vs => do
    text (String.singleton c)
    fill d r ms vs
  | .hole :: _, [] => stop (tooFewBinds r)
  | .hole :: ms, v :: vs => do
    param d v
    fill d r ms vs

def Raw.write (d : Dialect) (r : Raw) : Writer := r.fill d (marks none r.sql.toList) r.binds

def Operand.write (d : Dialect) : Operand → Writer
  | .column c => Writer.column d c
  | .raw r => r.write d

def Selection.write (d : Dialect) (s : Selection) : Writer := do
  s.operand.write d
  text (aliasText d s.alias?)

def Order.write (d : Dialect) : Order → Writer
  | .operand o direction => do
    o.write d
    text (" " ++ direction.text)
  | .output name direction => text (ident d name ++ " " ++ direction.text)
  | .raw r => r.write d
  | .random => text d.randomCall

-- The first name that a select orders by and does not output. Without selections the output
-- names are not known and any name will do.
def unknownOutput? (selections : List Selection) (order : List Order) : Option String :=
  if selections.isEmpty then none
  else (order.filterMap Order.outputName?).find? fun name =>
    !selections.any fun s => s.outputName? = some name

-- What stands between `select` and `from`.
def writeSelections (d : Dialect) (whole : Bool) (table : TableRef) (selections : List Selection) :
    Writer :=
  if selections.isEmpty then
    if whole then Writer.column d ⟨table.name, "*"⟩ else text "*"
  else separated ", " (selections.map (Selection.write d))

mutual

def Expr.write (d : Dialect) : Expr → Writer
  | .operand o => o.write d
  | .value v => param d v
  | .subquery q => do
    text "("
    q.write d
    text ")"

def Expr.writers (d : Dialect) : List Expr → List Writer
  | [] => []
  | e :: es => e.write d :: Expr.writers d es

def Condition.write (d : Dialect) : Condition → Writer
  | .compare left op right => do
    left.write d
    text (" " ++ op.text d ++ " ")
    right.write d
  | .isNull left negated => do
    left.write d
    text (if negated then " is not null" else " is null")
  | .between left negated low high => do
    left.write d
    text (if negated then " not between " else " between ")
    low.write d
    text " and "
    high.write d
  | .member left negated values =>
    -- an empty list of values is no SQL, so its outcome is written
    if values.isEmpty then text (if negated then "1 = 1" else "1 = 0") else do
      left.write d
      text (if negated then " not in (" else " in (")
      separated ", " (Expr.writers d values)
      text ")"
  | .memberOf left negated q => do
    left.write d
    text (if negated then " not in (" else " in (")
    q.write d
    text ")"
  | .exists negated q => do
    text (if negated then "not exists (" else "exists (")
    q.write d
    text ")"
  | .group clauses => do
    text "("
    joined (Clause.writers d clauses)
    text ")"
  | .raw r => r.write d

def Clause.writers (d : Dialect) : List Clause → List (String × Writer)
  | [] => []
  | ⟨conjunction, condition⟩ :: rest =>
    (" " ++ conjunction.text ++ " ", condition.write d) :: Clause.writers d rest

def Join.write (d : Dialect) : Join → Writer
  | ⟨table, on⟩ => do
    text (" inner join " ++ table.text d)
    clause " on " (Clause.writers d on)

def Join.writeAll (d : Dialect) : List Join → Writer
  | [] => pure ()
  | j :: js => do
    j.write d
    Join.writeAll d js

def Cte.write (d : Dialect) : Cte → Writer
  | ⟨name, columns, body⟩ => do
    text (tableName d name ++ "(" ++ columnsText d columns ++ ") as (")
    body.write d
    text ")"

def Cte.writers (d : Dialect) : List Cte → List Writer
  | [] => []
  | c :: cs => c.write d :: Cte.writers d cs

def Select.write (d : Dialect) : Select → Writer
  | ⟨ctes, distinct, whole, selections, table, joins, filter, groups, order, page⟩ =>
    match unknownOutput? selections order with
    | some name => stop (.unknownSelection name)
    | none => do
      listClause "with " (Cte.writers d ctes) " "
      inScope (table :: joins.map Join.table) do
        text (if distinct then "select distinct " else "select ")
        writeSelections d whole table selections
        text (" from " ++ table.text d)
        Join.writeAll d joins
        clause " where " (Clause.writers d filter)
        listClause " group by " (groups.map (Operand.write d))
        listClause " order by " (order.map (Order.write d))
        text (pageText d page)

end

-- An assignment of an update.
def writeSet (d : Dialect) (column : String) (e : Expr) : Writer := do
  text (ident d column ++ " = ")
  e.write d

-- A row's cell under a column of the statement.
def writeCell (d : Dialect) (row : Assignments) (column : String) : Writer :=
  match row.get? column with
  | some e => e.write d
  | none => text d.filler

def writeRow (d : Dialect) (columns : List String) (row : Assignments) : Writer := do
  text "("
  separated ", " (columns.map (writeCell d row))
  text ")"

namespace Insert

-- Rows that set no column at all. Only mysql has a form for several of them.
def writeDefaults (d : Dialect) (rows : List Assignments) : Writer :=
  match d, rows with
  | .mysql, _ => text ("() values " ++ ", ".intercalate (rows.map fun _ => "()"))
  | _, [_] => text "default values"
  | _, _ => stop (.unsupported .severalDefaultRows d)

def writeRows (d : Dialect) (q : Insert) : Writer :=
  if q.columns.isEmpty then writeDefaults d q.rows else do
    text ("(" ++ columnsText d q.columns ++ ") values ")
    separated ", " (q.rows.map (writeRow d q.columns))

def writeVerb (d : Dialect) (q : Insert) : Writer :=
  if q.mode = .replace && !d.hasReplace then stop (.unsupported .replace d) else text (q.verb d)

def write (d : Dialect) (q : Insert) : Writer :=
  if q.rows.isEmpty then stop .emptyInsert else do
    listClause "with " (Cte.writers d q.ctes) " "
    q.writeVerb d
    text (tableName d q.table ++ " ")
    q.writeRows d
    text (q.conflictText d)

end Insert

def Update.write (d : Dialect) (q : Update) : Writer :=
  if q.sets.isEmpty then stop .emptyUpdate else do
    listClause "with " (Cte.writers d q.ctes) " "
    inScope [q.table] do
      text ("update " ++ q.table.text d ++ " set ")
      separated ", " (q.sets.map fun (column, e) => writeSet d column e)
      clause " where " (Clause.writers d q.filter)

def Delete.write (d : Dialect) (q : Delete) : Writer := do
  listClause "with " (Cte.writers d q.ctes) " "
  inScope [q.table] do
    text ("delete from " ++ q.table.text d)
    clause " where " (Clause.writers d q.filter)

namespace Query

def write (d : Dialect) : Query → Writer
  | select q => q.write d
  | insert q => q.write d
  | update q => q.write d
  | delete q => q.write d

-- The error of a query whose writing stopped without a reason.
def unexplained : Error := .compile "failed to write query"

def compile (d : Dialect) (q : Query) : Except Error Statement :=
  match q.write d {} with
  | .ok () draft => .ok ⟨draft.sql, draft.params, q.kind⟩
  | .error () draft => .error (draft.fault?.getD unexplained)

end Query

end SqlBuilder.Sql
