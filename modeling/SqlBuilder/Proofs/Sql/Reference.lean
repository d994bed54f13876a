import SqlBuilder.Proofs.Sql.Arrangement
/-!
Where a query refers to columns. Each select in it, at any depth, has columns of its own, and they see the
tables of its own from-list first and then those of the from-lists around it.
-/
namespace SqlBuilder.Sql

def Operand.columns : Operand → List Column
  | column c => [c]
  | raw _ => []

def Order.columns : Order → List Column
  | operand o _ => o.columns
  | _ => []

def Expr.columns : Expr → List Column
  | .operand o => o.columns
  | _ => []

mutual

-- The columns of a condition, without those of its subqueries.
def Condition.columns : Condition → List Column
  | .compare left _ right => left.columns ++ right.columns
  | .isNull left _ => left.columns
  | .between left _ low high => left.columns ++ low.columns ++ high.columns
  -- nothing is asked of the left side when there is nothing to be a member of
  | .member left _ values => if values.isEmpty then [] else left.columns ++ values.flatMap Expr.columns
  | .memberOf left _ _ => left.columns
  | .exists _ _ => []
  | .group clauses => Clause.columnsAll clauses
  | .raw _ => []

def Clause.columnsAll : List Clause → List Column
  | [] => []
  | ⟨_, condition⟩ :: rest => condition.columns ++ Clause.columnsAll rest

end

namespace Select

variable (q : Select)

def fromList : Scope := q.table :: q.joins.map Join.table

-- What stands between `select` and `from`, the star being that of the first table.
def selected : List Column :=
  if q.selections.isEmpty then if q.whole then [⟨q.table.name, "*"⟩] else []
  else q.selections.flatMap (·.operand.columns)

-- The columns of a select, without those of other selects in it.
def columns : List Column :=
  q.selected ++ q.joins.flatMap (Clause.columnsAll ·.on) ++ Clause.columnsAll q.filter ++
    q.groups.flatMap Operand.columns ++ q.order.flatMap Order.columns

end Select

-- A select with the from-lists around it, the innermost first.
structure Level where
  outer : List Scope
  query : Select

def Level.scopes (l : Level) : List Scope := l.query.fromList :: l.outer

mutual

-- All selects in an expression, given the from-lists around it.
def Expr.levels (scopes : List Scope) : Expr → List Level
  | .operand _ => []
  | .value _ => []
  | .subquery q => q.levels scopes

def Expr.levelsAll (scopes : List Scope) : List Expr → List Level
  | [] => []
  | e :: es => e.levels scopes ++ Expr.levelsAll scopes es

def Condition.levels (scopes : List Scope) : Condition → List Level
  | .compare _ _ right => right.levels scopes
  | .isNull _ _ => []
  | .between _ _ low high => low.levels scopes ++ high.levels scopes
  | .member _ _ values => Expr.levelsAll scopes values
  | .memberOf _ _ q => q.levels scopes
  | .exists _ q => q.levels scopes
  | .group clauses => Clause.levelsAll scopes clauses
  | .raw _ => []

def Clause.levelsAll (scopes : List Scope) : List Clause → List Level
  | [] => []
  | ⟨_, condition⟩ :: rest => condition.levels scopes ++ Clause.levelsAll scopes rest

def Join.levelsAll (scopes : List Scope) : List Join → List Level
  | [] => []
  | ⟨_, on⟩ :: rest => Clause.levelsAll scopes on ++ Join.levelsAll scopes rest

def Cte.levelsAll (scopes : List Scope) : List Cte → List Level
  | [] => []
  | ⟨_, _, body⟩ :: rest => body.levels scopes ++ Cte.levelsAll scopes rest

-- The bodies of common table expressions do not see the from-list of the select they are declared on.
def Select.levels (outer : List Scope) : Select → List Level
  | ⟨ctes, distinct, whole, selections, table, joins, filter, groups, order, page⟩ =>
    let scopes := (table :: joins.map Join.table) :: outer
    ⟨outer, ⟨ctes, distinct, whole, selections, table, joins, filter, groups, order, page⟩⟩ ::
      (Cte.levelsAll outer ctes ++ Join.levelsAll scopes joins ++ Clause.levelsAll scopes filter)

end

-- Whether a column, with the from-lists it sees, is one of given columns or of a select's own columns.
def Refers (scopes : List Scope) (own : List Column) (levels : List Level) (r : List Scope × Column) : Prop :=
  (r.1 = scopes ∧ r.2 ∈ own) ∨ ∃ l ∈ levels, r.1 = l.scopes ∧ r.2 ∈ l.query.columns

instance (scopes : List Scope) (own : List Column) (levels : List Level) (r : List Scope × Column) :
    Decidable (Refers scopes own levels r) :=
  inferInstanceAs (Decidable (_ ∨ _))

theorem refers_append {scopes : List Scope} {own own' : List Column} {levels levels' : List Level}
    {r : List Scope × Column} :
    Refers scopes (own ++ own') (levels ++ levels') r ↔
      Refers scopes own levels r ∨ Refers scopes own' levels' r := by
  simp only [Refers, List.mem_append, or_and_right, exists_or, and_or_left]
  exact or_or_or_comm

theorem refers_own_append {scopes : List Scope} {own own' : List Column} {levels : List Level}
    {r : List Scope × Column} :
    Refers scopes (own ++ own') levels r ↔ (r.1 = scopes ∧ r.2 ∈ own) ∨ Refers scopes own' levels r := by
  simp only [Refers, List.mem_append, and_or_left, or_assoc]

@[simp] theorem refers_own {scopes : List Scope} {own : List Column} {r : List Scope × Column} :
    Refers scopes own [] r ↔ r.1 = scopes ∧ r.2 ∈ own := by
  simp [Refers]

@[simp] theorem refers_levels {scopes : List Scope} {levels : List Level} {r : List Scope × Column} :
    Refers scopes [] levels r ↔ ∃ l ∈ levels, r.1 = l.scopes ∧ r.2 ∈ l.query.columns := by
  simp [Refers]

namespace Part

variable {scopes : List Scope} {c : Column} {leds : List (String × List Part)} {pss : List (List Part)}

-- The column that a part is, with the from-lists that it sees.
def references : Part → List (List Scope × Column)
  | column scopes c => [(scopes, c)]
  | _ => []

@[simp] theorem silent_references : Silent references := ⟨fun _ => rfl, fun _ => rfl⟩

theorem column_mem_iff {ps : List Part} : .column scopes c ∈ ps ↔ (scopes, c) ∈ ps.flatMap references := by
  rw [List.mem_flatMap]
  constructor
  · exact fun h => ⟨_, h, List.mem_singleton_self _⟩
  · rintro ⟨p, hp, h⟩
    cases p
    case column => cases List.mem_singleton.mp h; exact hp
    all_goals cases h

@[simp] theorem column_mem_joined : .column scopes c ∈ joined leds ↔ ∃ led ∈ leds, .column scopes c ∈ led.2 := by
  simp [column_mem_iff]

@[simp] theorem column_mem_separated {separator : String} :
    .column scopes c ∈ separated separator pss ↔ ∃ ps ∈ pss, .column scopes c ∈ ps := by
  simp [column_mem_iff]

@[simp] theorem column_mem_clause {before after : String} :
    .column scopes c ∈ clause before leds after ↔ ∃ led ∈ leds, .column scopes c ∈ led.2 := by
  simp [column_mem_iff]

@[simp] theorem column_mem_listClause {before after : String} :
    .column scopes c ∈ listClause before pss after ↔ ∃ ps ∈ pss, .column scopes c ∈ ps := by
  simp [column_mem_iff]

@[simp] theorem column_notMem_names (columns : List String) : .column scopes c ∉ names columns := by
  simp [column_mem_iff]

@[simp] theorem column_notMem_table (n : String) : .column scopes c ∉ table n := by
  simp [column_mem_iff]

@[simp] theorem column_notMem_aliasing (alias? : Option String) : .column scopes c ∉ aliasing alias? := by
  simp [column_mem_iff]

end Part

@[simp] theorem TableRef.column_notMem_parts {scopes : List Scope} {c : Column} (t : TableRef) :
    .column scopes c ∉ t.parts := by
  simp [parts]

section

variable {d : Dialect} {scopes s : List Scope} {c : Column}

@[simp] theorem Operand.column_mem_parts (o : Operand) :
    .column s c ∈ o.parts scopes ↔ s = scopes ∧ c ∈ o.columns := by
  cases o <;> simp [parts, columns]

@[simp] theorem Selection.column_mem_parts (selection : Selection) :
    .column s c ∈ selection.parts scopes ↔ s = scopes ∧ c ∈ selection.operand.columns := by
  simp [parts]

@[simp] theorem Order.column_mem_parts (o : Order) :
    .column s c ∈ o.parts d scopes ↔ s = scopes ∧ c ∈ o.columns := by
  cases o <;> simp [parts, columns]

theorem column_mem_flatMap {α : Type} {parts : α → List Part} {columns : α → List Column}
    (h : ∀ a, .column s c ∈ parts a ↔ s = scopes ∧ c ∈ columns a) (as : List α) :
    (∃ ps ∈ as.map parts, .column s c ∈ ps) ↔ s = scopes ∧ c ∈ as.flatMap columns := by
  simp only [List.mem_map, exists_exists_and_eq_and, h, List.mem_flatMap]
  constructor
  · rintro ⟨a, ha, hs, hc⟩
    exact ⟨hs, a, ha, hc⟩
  · rintro ⟨hs, a, ha, hc⟩
    exact ⟨a, ha, hs, hc⟩

theorem column_mem_selectionParts (q : Select) :
    .column s c ∈ selectionParts scopes q.whole q.table q.selections ↔ s = scopes ∧ c ∈ q.selected := by
  unfold selectionParts Select.selected
  split
  case isTrue => split <;> simp
  case isFalse =>
    rw [Part.column_mem_separated]
    exact column_mem_flatMap Selection.column_mem_parts q.selections

theorem column_notMem_orderParts (selections : List Selection) (order : List Order) :
    .column s c ∉ orderParts selections order := by
  unfold orderParts
  split <;> simp

end

mutual

theorem Expr.column_mem_parts (d : Dialect) (scopes : List Scope) {s : List Scope} {c : Column} :
    (e : Expr) → (.column s c ∈ e.parts d scopes ↔ Refers scopes e.columns (e.levels scopes) (s, c))
  | .operand o => by simp [Expr.parts, Expr.columns, Expr.levels]
  | .value _ => by simp [Expr.parts, Expr.columns, Expr.levels]
  | .subquery q => by simp [Expr.parts, Expr.columns, Expr.levels, q.column_mem_parts d scopes]

theorem Expr.column_mem_partsEach (d : Dialect) (scopes : List Scope) {s : List Scope} {c : Column} :
    (es : List Expr) → ((∃ ps ∈ Expr.partsEach d scopes es, .column s c ∈ ps) ↔
      Refers scopes (es.flatMap Expr.columns) (Expr.levelsAll scopes es) (s, c))
  | [] => by simp [Expr.partsEach, Expr.levelsAll]
  | e :: es => by
    rw [List.flatMap_cons, Expr.levelsAll, refers_append, ← e.column_mem_parts d scopes,
      ← Expr.column_mem_partsEach d scopes es]
    simp [Expr.partsEach]

theorem Condition.column_mem_parts (d : Dialect) (scopes : List Scope) {s : List Scope} {c : Column} :
    (cond : Condition) →
      (.column s c ∈ cond.parts d scopes ↔ Refers scopes cond.columns (cond.levels scopes) (s, c))
  | .compare left op right => by
    rw [Condition.columns, Condition.levels, refers_own_append, ← right.column_mem_parts d scopes]
    simp [Condition.parts]
  | .isNull left negated => by simp [Condition.parts, Condition.columns, Condition.levels]
  | .between left negated low high => by
    rw [Condition.columns, Condition.levels, refers_append, refers_own_append,
      ← low.column_mem_parts d scopes, ← high.column_mem_parts d scopes]
    simp [Condition.parts, or_assoc]
  | .member left negated values => by
    unfold Condition.parts Condition.columns Condition.levels
    split
    case isTrue h =>
      obtain rfl := List.isEmpty_iff.mp h
      simp [Expr.levelsAll]
    case isFalse =>
      rw [refers_own_append, ← Expr.column_mem_partsEach d scopes values]
      simp
  | .memberOf left negated q => by
    rw [Condition.columns, Condition.levels, ← List.append_nil left.columns, refers_own_append,
      refers_levels, ← q.column_mem_parts d scopes]
    simp [Condition.parts]
  | .exists negated q => by
    simp [Condition.parts, Condition.columns, Condition.levels, q.column_mem_parts d scopes]
  | .group clauses => by
    simp [Condition.parts, Condition.columns, Condition.levels, Clause.column_mem_partsEach d scopes clauses]
  | .raw r => by simp [Condition.parts, Condition.columns, Condition.levels]

theorem Clause.column_mem_partsEach (d : Dialect) (scopes : List Scope) {s : List Scope} {c : Column} :
    (cs : List Clause) → ((∃ led ∈ Clause.partsEach d scopes cs, .column s c ∈ led.2) ↔
      Refers scopes (Clause.columnsAll cs) (Clause.levelsAll scopes cs) (s, c))
  | [] => by simp [Clause.partsEach, Clause.columnsAll, Clause.levelsAll]
  | ⟨_, condition⟩ :: rest => by
    rw [Clause.columnsAll, Clause.levelsAll, refers_append, ← condition.column_mem_parts d scopes,
      ← Clause.column_mem_partsEach d scopes rest]
    simp [Clause.partsEach]

theorem Join.column_mem_partsAll (d : Dialect) (scopes : List Scope) {s : List Scope} {c : Column} :
    (js : List Join) → (.column s c ∈ Join.partsAll d scopes js ↔
      Refers scopes (js.flatMap (Clause.columnsAll ·.on)) (Join.levelsAll scopes js) (s, c))
  | [] => by simp [Join.partsAll, Join.levelsAll]
  | ⟨table, on⟩ :: rest => by
    rw [List.flatMap_cons, Join.levelsAll, refers_append, ← Clause.column_mem_partsEach d scopes on,
      ← Join.column_mem_partsAll d scopes rest]
    simp [Join.partsAll]

theorem Cte.column_mem_partsEach (d : Dialect) (scopes : List Scope) {s : List Scope} {c : Column} :
    (cs : List Cte) → ((∃ ps ∈ Cte.partsEach d scopes cs, .column s c ∈ ps) ↔
      ∃ l ∈ Cte.levelsAll scopes cs, s = l.scopes ∧ c ∈ l.query.columns)
  | [] => by simp [Cte.partsEach, Cte.levelsAll]
  | ⟨name, columns, body⟩ :: rest => by
    have hb := body.column_mem_parts d scopes (s := s) (c := c)
    have hr := Cte.column_mem_partsEach d scopes (s := s) (c := c) rest
    simp [Cte.partsEach, Cte.levelsAll, hb, hr, or_and_right, exists_or]

theorem Select.column_mem_parts (d : Dialect) (outer : List Scope) {s : List Scope} {c : Column} :
    (q : Select) → (.column s c ∈ q.parts d outer ↔ ∃ l ∈ q.levels outer, s = l.scopes ∧ c ∈ l.query.columns)
  | ⟨ctes, distinct, whole, selections, table, joins, filter, groups, order, page⟩ => by
    let q : Select := ⟨ctes, distinct, whole, selections, table, joins, filter, groups, order, page⟩
    let scopes := q.fromList :: outer
    have hc := Cte.column_mem_partsEach d outer (s := s) (c := c) ctes
    have hs : .column s c ∈ selectionParts scopes whole table selections ↔ s = scopes ∧ c ∈ q.selected :=
      column_mem_selectionParts q
    have hj := Join.column_mem_partsAll d scopes (s := s) (c := c) joins
    have hf := Clause.column_mem_partsEach d scopes (s := s) (c := c) filter
    have hg : (∃ ps ∈ groups.map (Operand.parts scopes), .column s c ∈ ps) ↔
        s = scopes ∧ c ∈ groups.flatMap Operand.columns := column_mem_flatMap Operand.column_mem_parts groups
    have ho : (∃ ps ∈ order.map (Order.parts d scopes), .column s c ∈ ps) ↔
        s = scopes ∧ c ∈ order.flatMap Order.columns := column_mem_flatMap Order.column_mem_parts order
    have hp : .column s c ∈ q.parts d outer ↔
        (∃ l ∈ Cte.levelsAll outer ctes, s = l.scopes ∧ c ∈ l.query.columns) ∨
        (s = scopes ∧ c ∈ q.selected) ∨
        Refers scopes (joins.flatMap (Clause.columnsAll ·.on)) (Join.levelsAll scopes joins) (s, c) ∨
        Refers scopes (Clause.columnsAll filter) (Clause.levelsAll scopes filter) (s, c) ∨
        (s = scopes ∧ c ∈ groups.flatMap Operand.columns) ∨
        (s = scopes ∧ c ∈ order.flatMap Order.columns) := by
      rw [← hc, ← hs, ← hj, ← hf, ← hg, ← ho]
      simp [q, scopes, Select.parts, Select.fromList, column_notMem_orderParts]
    have hl : (∃ l ∈ q.levels outer, s = l.scopes ∧ c ∈ l.query.columns) ↔
        Refers scopes q.columns
          (Cte.levelsAll outer ctes ++ Join.levelsAll scopes joins ++ Clause.levelsAll scopes filter) (s, c) := by
      simp [q, scopes, Select.levels, Refers, Level.scopes, Select.fromList]
    rw [hp, hl]
    simp only [Refers, Select.columns, List.mem_append, or_and_right, exists_or, q]
    grind

end

-- The expressions in the cells of the rows, in the order of the columns.
def Insert.cells (q : Insert) : List Expr :=
  q.rows.flatMap fun row => (united q.rows).filterMap fun column => row.lookup column

namespace Query

-- The columns that a query refers to outside of its selects.
def columns : Query → List Column
  | select _ => []
  | insert q => q.cells.flatMap Expr.columns
  | update q => (q.sets.map (·.2)).flatMap Expr.columns ++ Clause.columnsAll q.filter
  | delete q => Clause.columnsAll q.filter

-- The from-lists around those columns. A cell sees no table.
def scopes : Query → List Scope
  | select _ => []
  | insert _ => []
  | update q => [[q.table]]
  | delete q => [[q.table]]

-- All selects in a query.
def levels : Query → List Level
  | select q => q.levels []
  | insert q => Cte.levelsAll [] q.ctes ++ Expr.levelsAll [] q.cells
  | update q => Cte.levelsAll [] q.ctes ++ Expr.levelsAll [[q.table]] (q.sets.map (·.2)) ++
    Clause.levelsAll [[q.table]] q.filter
  | delete q => Cte.levelsAll [] q.ctes ++ Clause.levelsAll [[q.table]] q.filter

end Query

variable {d : Dialect} {s : List Scope} {c : Column}

theorem Expr.partsEach_eq_map (scopes : List Scope) (es : List Expr) :
    Expr.partsEach d scopes es = es.map (Expr.parts d scopes) := by
  induction es with
  | nil => rfl
  | cons e es ih => rw [Expr.partsEach, ih, List.map_cons]

theorem Expr.exists_mem_partsEach (scopes : List Scope) (es : List Expr) {p : Part} :
    (∃ ps ∈ Expr.partsEach d scopes es, p ∈ ps) ↔ ∃ e ∈ es, p ∈ e.parts d scopes := by
  simp [partsEach_eq_map]

namespace Insert

variable (q : Insert)

theorem column_mem_cellParts (row : Assignments) (column : String) :
    .column s c ∈ cellParts d row column ↔ ∃ e, row.lookup column = some e ∧ .column s c ∈ e.parts d [] := by
  unfold cellParts
  cases row.lookup column <;> simp

theorem column_mem_rowParts (columns : List String) (row : Assignments) :
    .column s c ∈ rowParts d columns row ↔
      ∃ e ∈ columns.filterMap fun column => row.lookup column, .column s c ∈ e.parts d [] := by
  simp [rowParts, column_mem_cellParts]
  grind

theorem column_notMem_defaultParts (rows : List Assignments) : .column s c ∉ defaultParts d rows := by
  cases d
  case mysql => simp [defaultParts]
  all_goals
    match rows with
    | [] | [_] | _ :: _ :: _ => simp [defaultParts]

theorem column_mem_rowsParts :
    .column s c ∈ q.rowsParts d ↔ ∃ e ∈ q.cells, .column s c ∈ e.parts d [] := by
  unfold rowsParts cells
  split
  case isTrue h => simp [List.isEmpty_iff.mp h, column_notMem_defaultParts]
  case isFalse =>
    simp [column_mem_rowParts]
    grind

theorem column_notMem_verbParts : .column s c ∉ q.verbParts d := by
  unfold verbParts
  split <;> simp

theorem column_notMem_conflictParts : .column s c ∉ q.conflictParts d := by
  simp [Part.column_mem_iff]

end Insert

theorem Update.column_mem_setsParts {scopes : List Scope} (sets : Assignments) :
    .column s c ∈ Part.separated ", " (sets.map (setParts d scopes)) ↔
      ∃ e ∈ sets.map (·.2), .column s c ∈ e.parts d scopes := by
  simp only [Part.column_mem_separated, List.mem_map, exists_exists_and_eq_and]
  simp [setParts]

-- The columns in what a query writes are its own and those of its selects, each with the from-lists that
-- it sees.
theorem Query.column_mem_parts (q : Query) (h : ∀ e, .fault e ∉ q.parts d) :
    .column s c ∈ q.parts d ↔ Refers q.scopes q.columns q.levels (s, c) := by
  cases q
  case select q =>
    rw [columns, levels, refers_levels]
    exact q.column_mem_parts d []
  case insert q =>
    have hn : q.rows.isEmpty = false := by
      cases hn : q.rows.isEmpty
      case false => rfl
      case true => exact absurd (by simp [parts, Insert.parts, hn]) (h .emptyInsert)
    rw [levels, columns, ← List.nil_append (q.cells.flatMap _), refers_append, refers_levels, scopes,
      ← Expr.column_mem_partsEach d [] q.cells, ← Cte.column_mem_partsEach d [] q.ctes,
      Expr.exists_mem_partsEach]
    simp [parts, Insert.parts, hn, q.column_mem_rowsParts, q.column_notMem_verbParts,
      q.column_notMem_conflictParts]
  case update q =>
    have hn : q.sets.isEmpty = false := by
      cases hn : q.sets.isEmpty
      case false => rfl
      case true => exact absurd (by simp [parts, Update.parts, hn]) (h .emptyUpdate)
    rw [levels, columns, ← List.nil_append (List.flatMap _ _), refers_append, refers_append, refers_levels,
      scopes, ← Expr.column_mem_partsEach d [[q.table]], ← Cte.column_mem_partsEach d [] q.ctes,
      ← Clause.column_mem_partsEach d [[q.table]] q.filter, Expr.exists_mem_partsEach,
      ← Update.column_mem_setsParts]
    simp [parts, Update.parts, hn, or_assoc]
  case delete q =>
    rw [levels, columns, ← List.nil_append (Clause.columnsAll q.filter), refers_append, refers_levels,
      scopes, ← Clause.column_mem_partsEach d [[q.table]] q.filter, ← Cte.column_mem_partsEach d [] q.ctes]
    simp [parts, Delete.parts]

end SqlBuilder.Sql
