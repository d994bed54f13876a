import Mathlib.Data.List.Induction
import SqlBuilder.Proofs.Sql.Piece
import SqlBuilder.Proofs.Sql.Placeholder
import SqlBuilder.Sql.Compile
/-!
What a query writes, flattened: its words, names, columns, raw texts and values in the order in which
they are written. A part still knows where it comes from, its pieces do not.
-/
namespace SqlBuilder.Sql

inductive Part where
  | text (s : String)
  -- one part of an identifier
  | name (part : String)
  -- a column with the scopes around it, the innermost first
  | column (scopes : List Scope) (c : Column)
  | raw (r : Raw)
  | value (v : Value)
  | fault (e : Error)

-- Raw text with its binds in the places of its placeholders.
def Raw.pieces (r : Raw) : List Piece := go (reading none r.sql.toList) r.binds
where
  go : List Mark → List Value → List Piece
    | [], [] => []
    | [], _ :: _ => [.fault (tooManyBinds r)]
    | .char c :: ms, vs => .text (String.singleton c) :: go ms vs
    | .hole :: _, [] => [.fault (tooFewBinds r)]
    | .hole :: ms, v :: vs => .value v :: go ms vs

theorem Raw.pieces_eq (r : Raw) : r.pieces = pieces.go r (marks none r.sql.toList) r.binds := by
  rw [marks_none_eq_reading, pieces]

namespace Part

def pieces (d : Dialect) : Part → List Piece
  | text s => [.text s]
  | name part => [.text (ident d part)]
  | column scopes c => [.text (c.text d scopes)]
  | raw r => r.pieces
  | value v => [.value v]
  | fault e => [.fault e]

def allPieces (d : Dialect) (ps : List Part) : List Piece := ps.flatMap (pieces d)

-- Lists of parts in order, each led by its text.
def eachLed : List (String × List Part) → List Part
  | [] => []
  | (lead, ps) :: rest => text lead :: (ps ++ eachLed rest)

-- Lists of parts in order, each but the first led by its text.
def joined : List (String × List Part) → List Part
  | [] => []
  | (_, ps) :: rest => ps ++ eachLed rest

def separated (separator : String) (pss : List (List Part)) : List Part :=
  joined (pss.map fun ps => (separator, ps))

-- Joined lists between two texts, nothing when there are no lists.
def clause (before : String) (pss : List (String × List Part)) (after : String := "") : List Part :=
  match pss with
  | [] => []
  | _ :: _ => text before :: (joined pss ++ [text after])

def listClause (before : String) (pss : List (List Part)) (after : String := "") : List Part :=
  clause before (pss.map fun ps => (", ", ps)) after

def names (columns : List String) : List Part := separated ", " (columns.map fun c => [name c])

def table (n : String) : List Part :=
  separated "." ((Text.pieces (· = '.') n.toList).map fun p => [name (String.ofList p)])

def aliasing : Option String → List Part
  | some given => [text " as ", name given]
  | none => []

end Part

def TableRef.parts (t : TableRef) : List Part := Part.table t.name ++ Part.aliasing t.alias?

def Operand.parts (scopes : List Scope) : Operand → List Part
  | column c => [.column scopes c]
  | raw r => [.raw r]

def Selection.parts (scopes : List Scope) (s : Selection) : List Part :=
  s.operand.parts scopes ++ Part.aliasing s.alias?

def Order.parts (d : Dialect) (scopes : List Scope) : Order → List Part
  | operand o direction => o.parts scopes ++ [.text (" " ++ direction.text)]
  | output name direction => [.name name, .text (" " ++ direction.text)]
  | raw r => [.raw r]
  | random => [.text d.randomCall]

def selectionParts (scopes : List Scope) (whole : Bool) (table : TableRef) (selections : List Selection) :
    List Part :=
  if selections.isEmpty then
    if whole then [.column scopes ⟨table.name, "*"⟩] else [.text "*"]
  else Part.separated ", " (selections.map (Selection.parts scopes))

-- The names of the cells that selections come back in. Raw text without an alias has none.
def outputs : List Selection → List String
  | [] => []
  | ⟨_, some given⟩ :: rest => given :: outputs rest
  | ⟨.column c, none⟩ :: rest => c.name :: outputs rest
  | ⟨.raw _, none⟩ :: rest => outputs rest

-- The names that an order takes for those of selections.
def orderedBy : List Order → List String
  | [] => []
  | .output name _ :: rest => name :: orderedBy rest
  | .operand _ _ :: rest | .raw _ :: rest | .random :: rest => orderedBy rest

-- The first name that is ordered by and that no selection outputs. There is none without selections.
def unselected? (selections : List Selection) (order : List Order) : Option String :=
  if selections.isEmpty then none else (orderedBy order).find? (· ∉ outputs selections)

theorem mem_outputs_iff {selections : List Selection} {name : String} :
    name ∈ outputs selections ↔ ∃ s ∈ selections, s.outputName? = some name := by
  fun_induction outputs selections with
  | case1 => simp
  | case2 | case3 | case4 => simp_all [Selection.outputName?, eq_comm]

theorem orderedBy_eq (order : List Order) : orderedBy order = order.filterMap Order.outputName? := by
  fun_induction orderedBy order with
  | case1 => rfl
  | case2 name _ rest ih => rw [ih]; rfl
  | case3 | case4 | case5 => assumption

theorem unknownOutput?_eq (selections : List Selection) (order : List Order) :
    unknownOutput? selections order = unselected? selections order := by
  have h (name : String) : (!selections.any fun s => s.outputName? = some name) =
      decide (name ∉ outputs selections) := by
    rw [Bool.eq_iff_iff]
    simp [mem_outputs_iff]
  simp only [unknownOutput?, unselected?, orderedBy_eq, h]

-- An order by a name that is not selected is a fault, met before anything is written.
def orderParts (selections : List Selection) (order : List Order) : List Part :=
  match unselected? selections order with
  | some name => [.fault (.unknownSelection name)]
  | none => []

mutual

def Expr.parts (d : Dialect) (scopes : List Scope) : Expr → List Part
  | .operand o => o.parts scopes
  | .value v => [.value v]
  | .subquery q => .text "(" :: (q.parts d scopes ++ [.text ")"])

def Expr.partsEach (d : Dialect) (scopes : List Scope) : List Expr → List (List Part)
  | [] => []
  | e :: es => e.parts d scopes :: Expr.partsEach d scopes es

def Condition.parts (d : Dialect) (scopes : List Scope) : Condition → List Part
  | .compare left op right =>
    left.parts scopes ++ .text (" " ++ op.text d ++ " ") :: right.parts d scopes
  | .isNull left negated =>
    left.parts scopes ++ [.text (if negated then " is not null" else " is null")]
  | .between left negated low high =>
    left.parts scopes ++ .text (if negated then " not between " else " between ") ::
      (low.parts d scopes ++ .text " and " :: high.parts d scopes)
  | .member left negated values =>
    if values.isEmpty then [.text (if negated then "1 = 1" else "1 = 0")] else
      left.parts scopes ++ .text (if negated then " not in (" else " in (") ::
        (Part.separated ", " (Expr.partsEach d scopes values) ++ [.text ")"])
  | .memberOf left negated q =>
    left.parts scopes ++ .text (if negated then " not in (" else " in (") ::
      (q.parts d scopes ++ [.text ")"])
  | .exists negated q =>
    .text (if negated then "not exists (" else "exists (") :: (q.parts d scopes ++ [.text ")"])
  | .group clauses => .text "(" :: (Part.joined (Clause.partsEach d scopes clauses) ++ [.text ")"])
  | .raw r => [.raw r]

def Clause.partsEach (d : Dialect) (scopes : List Scope) : List Clause → List (String × List Part)
  | [] => []
  | ⟨conjunction, condition⟩ :: rest =>
    (" " ++ conjunction.text ++ " ", condition.parts d scopes) :: Clause.partsEach d scopes rest

def Join.partsAll (d : Dialect) (scopes : List Scope) : List Join → List Part
  | [] => []
  | ⟨table, on⟩ :: rest =>
    .text " inner join " :: (table.parts ++ Part.clause " on " (Clause.partsEach d scopes on) ++
      Join.partsAll d scopes rest)

-- The body of a common table expression sees what is visible where the expression is declared.
def Cte.partsEach (d : Dialect) (scopes : List Scope) : List Cte → List (List Part)
  | [] => []
  | ⟨name, columns, body⟩ :: rest =>
    (Part.table name ++ .text "(" :: (Part.names columns ++ .text ") as (" ::
      (body.parts d scopes ++ [.text ")"]))) :: Cte.partsEach d scopes rest

def Select.parts (d : Dialect) (outer : List Scope) : Select → List Part
  | ⟨ctes, distinct, whole, selections, table, joins, filter, groups, order, page⟩ =>
    let scopes := (table :: joins.map Join.table) :: outer
    orderParts selections order ++
    Part.listClause "with " (Cte.partsEach d outer ctes) " " ++
    .text (if distinct then "select distinct " else "select ") ::
    (selectionParts scopes whole table selections ++
    .text " from " :: (table.parts ++
    Join.partsAll d scopes joins ++
    Part.clause " where " (Clause.partsEach d scopes filter) ++
    Part.listClause " group by " (groups.map (Operand.parts scopes)) ++
    Part.listClause " order by " (order.map (Order.parts d scopes)) ++
    [.text (pageText d page)]))

end

theorem Assignments.lookup_eq_get? (as : Assignments) (column : String) :
    as.lookup column = as.get? column := by
  induction as with
  | nil => rfl
  | cons a as ih =>
    obtain ⟨c, e⟩ := a
    by_cases h : c = column
    · simp [get?, h, List.lookup_cons_self]
    · have hne : (column == c) = false := beq_false_of_ne (Ne.symm h)
      rw [List.lookup_cons, hne]
      simpa [get?, h] using ih

-- Of names that are put together one at a time only the new ones are added.
theorem eraseDups_concat (names : List String) (name : String) :
    (names ++ [name]).eraseDups = if name ∈ names then names.eraseDups else names.eraseDups ++ [name] := by
  rw [List.eraseDups_append]
  by_cases h : name ∈ names <;> simp [h, List.removeAll, List.eraseDups_cons]

namespace Insert

-- The columns of all rows, without repetition, in the order in which they first appear.
def united (rows : List Assignments) : List String := (rows.flatten.map Prod.fst).eraseDups

theorem columns_eq_united (q : Insert) : q.columns = united q.rows := by
  rw [columns, ← List.foldl_flatten, united]
  induction q.rows.flatten using List.reverseRecOn with
  | nil => rfl
  | append_singleton as a ih =>
    rw [List.foldl_append, ih, List.map_append, List.map_singleton, eraseDups_concat]
    simp only [List.foldl_cons, List.foldl_nil, List.mem_eraseDups]

-- A row's cells under the columns of the statement. A cell sees no table.
def cellParts (d : Dialect) (row : Assignments) (column : String) : List Part :=
  match row.lookup column with
  | some e => e.parts d []
  | none => [.text d.filler]

def rowParts (d : Dialect) (columns : List String) (row : Assignments) : List Part :=
  .text "(" :: (Part.separated ", " (columns.map (cellParts d row)) ++ [.text ")"])

def defaultParts (d : Dialect) (rows : List Assignments) : List Part :=
  match d, rows with
  | .mysql, _ => [.text ("() values " ++ ", ".intercalate (rows.map fun _ => "()"))]
  | _, [_] => [.text "default values"]
  | _, _ => [.fault (.unsupported .severalDefaultRows d)]

def rowsParts (d : Dialect) (q : Insert) : List Part :=
  if (united q.rows).isEmpty then defaultParts d q.rows else
    .text "(" :: (Part.names (united q.rows) ++ .text ") values " ::
      Part.separated ", " (q.rows.map (rowParts d (united q.rows))))

def verbParts (d : Dialect) (q : Insert) : List Part :=
  if q.mode = .replace && !d.hasReplace then [.fault (.unsupported .replace d)] else [.text (q.verb d)]

def targetParts : List String → List Part
  | [] => []
  | target => .text " (" :: (Part.names target ++ [.text ")"])

def setParts (d : Dialect) (column : String) : List Part :=
  match d with
  | .mysql => [.name column, .text " = values(", .name column, .text ")"]
  | _ => [.name column, .text " = ", .name "excluded", .text ".", .name column]

def conflictParts (d : Dialect) (q : Insert) : List Part :=
  match q.conflict, d with
  | none, .postgres => if q.ignore && q.mode = .insert then [.text " on conflict do nothing"] else []
  | none, _ => []
  | some (.nothing _), .mysql => []
  | some (.nothing target), _ => .text " on conflict" :: (targetParts target ++ [.text " do nothing"])
  | some (.update _ sets), .mysql =>
    .text " on duplicate key update " :: Part.separated ", " (sets.map (setParts d))
  | some (.update target sets), _ =>
    .text " on conflict" :: (targetParts target ++ .text " do update set " ::
      Part.separated ", " (sets.map (setParts d)))

def parts (d : Dialect) (q : Insert) : List Part :=
  if q.rows.isEmpty then [.fault .emptyInsert] else
    Part.listClause "with " (Cte.partsEach d [] q.ctes) " " ++
    q.verbParts d ++
    Part.table q.table ++ .text " " ::
    (q.rowsParts d ++
    q.conflictParts d)

end Insert

def Update.setParts (d : Dialect) (scopes : List Scope) (a : String × Expr) : List Part :=
  .name a.1 :: .text " = " :: a.2.parts d scopes

def Update.parts (d : Dialect) (q : Update) : List Part :=
  if q.sets.isEmpty then [.fault .emptyUpdate] else
    Part.listClause "with " (Cte.partsEach d [] q.ctes) " " ++
    .text "update " :: (q.table.parts ++
    .text " set " :: (Part.separated ", " (q.sets.map (Update.setParts d [[q.table]])) ++
    Part.clause " where " (Clause.partsEach d [[q.table]] q.filter)))

def Delete.parts (d : Dialect) (q : Delete) : List Part :=
  Part.listClause "with " (Cte.partsEach d [] q.ctes) " " ++
  .text "delete from " :: (q.table.parts ++
  Part.clause " where " (Clause.partsEach d [[q.table]] q.filter))

namespace Query

def parts (d : Dialect) : Query → List Part
  | select q => q.parts d []
  | insert q => q.parts d
  | update q => q.parts d
  | delete q => q.parts d

def pieces (d : Dialect) (q : Query) : List Piece := Part.allPieces d (q.parts d)

end Query

end SqlBuilder.Sql
