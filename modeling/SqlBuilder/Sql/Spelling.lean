import SqlBuilder.Sql.Ident
import SqlBuilder.Sql.Query
/-!
The words of SQL for the parts of a query that hold no expressions.
-/
namespace SqlBuilder.Sql

-- Matching with regard to case is `like` where the dialect has a word for matching without, and the
-- other way around. Mysql matches without regard to case unless asked for a binary comparison.
def Comparison.text (d : Dialect) : Comparison → String
  | eq => "="
  | notEq => "!="
  | lt => "<"
  | lte => "<="
  | gt => ">"
  | gte => ">="
  | like => if d = .mysql then "like binary" else "like"
  | notLike => if d = .mysql then "not like binary" else "not like"
  | ilike => if d = .postgres then "ilike" else "like"
  | notIlike => if d = .postgres then "not ilike" else "not like"

def Conjunction.text : Conjunction → String
  | and => "and"
  | or => "or"

def Direction.text : Direction → String
  | asc => "asc"
  | desc => "desc"

-- ` as alias`, or nothing without an alias.
def aliasText (d : Dialect) : Option String → String
  | some given => " as " ++ ident d given
  | none => ""

def TableRef.text (d : Dialect) (t : TableRef) : String :=
  tableName d t.name ++ aliasText d t.alias?

-- Columns in their order, each an identifier.
def columnsText (d : Dialect) (columns : List String) : String :=
  ", ".intercalate (columns.map (ident d))

-- Mysql and sqlite take an offset only after a limit, so one that keeps all rows is written.
def pageText (d : Dialect) (p : Page) : String :=
  match p.limit, p.offset with
  | none, none => ""
  | some limit, none => " limit " ++ Text.decimal limit.toNat
  | some limit, some offset =>
    " limit " ++ Text.decimal limit.toNat ++ " offset " ++ Text.decimal offset.toNat
  | none, some offset =>
    match d with
    | .postgres => " offset " ++ Text.decimal offset.toNat
    | .mysql => " limit " ++ Text.decimal Page.maxCount ++ " offset " ++ Text.decimal offset.toNat
    | .sqlite => " limit -1 offset " ++ Text.decimal offset.toNat

-- The columns whose collision a conflict clause is about. No columns stand for any collision.
def targetText (d : Dialect) : List String → String
  | [] => ""
  | target => " (" ++ columnsText d target ++ ")"

-- `set` items that take over the values of the rejected row.
def Conflict.setText (d : Dialect) (column : String) : String :=
  match d with
  | .mysql => ident d column ++ " = values(" ++ ident d column ++ ")"
  | _ => ident d column ++ " = " ++ ident d "excluded" ++ "." ++ ident d column

namespace Insert

def conflictDoesNothing (q : Insert) : Bool :=
  match q.conflict with
  | some (.nothing _) => true
  | _ => false

-- Mysql and sqlite say in the verb that colliding rows are skipped.
def verb (d : Dialect) (q : Insert) : String :=
  match q.mode, d with
  | .replace, _ => "replace into "
  | .insert, .mysql => if q.ignore || q.conflictDoesNothing then "insert ignore into " else "insert into "
  | .insert, .sqlite => if q.ignore then "insert or ignore into " else "insert into "
  | .insert, .postgres => "insert into "

def conflictText (d : Dialect) (q : Insert) : String :=
  match q.conflict, d with
  | none, .postgres => if q.ignore && q.mode = .insert then " on conflict do nothing" else ""
  | none, _ => ""
  | some (.nothing _), .mysql => ""
  | some (.nothing target), _ => " on conflict" ++ targetText d target ++ " do nothing"
  | some (.update _ sets), .mysql =>
    " on duplicate key update " ++ ", ".intercalate (sets.map (Conflict.setText d))
  | some (.update target sets), _ =>
    " on conflict" ++ targetText d target ++ " do update set "
      ++ ", ".intercalate (sets.map (Conflict.setText d))

-- The columns that any row sets, in the order in which they first appear.
def columns (q : Insert) : List String :=
  q.rows.foldl (fun seen row => row.foldl (fun seen a => if a.1 ∈ seen then seen else seen ++ [a.1]) seen) []

end Insert

end SqlBuilder.Sql
