import SqlBuilder.Proofs.Sql.Arrangement
import SqlBuilder.Proofs.Sql.Flattening
/-!
The values that a query binds, listed from left to right by the recursion of the query. They are the
parameters of the statement that it compiles to.
-/
namespace SqlBuilder.Sql

def Operand.values : Operand → List Value
  | column _ => []
  | raw r => r.binds

def Order.values : Order → List Value
  | operand o _ => o.values
  | raw r => r.binds
  | _ => []

mutual

-- The values that an expression binds, from left to right.
def Expr.values : Expr → List Value
  | .operand o => o.values
  | .value v => [v]
  | .subquery q => q.values

def Expr.valuesAll : List Expr → List Value
  | [] => []
  | e :: es => e.values ++ Expr.valuesAll es

def Condition.values : Condition → List Value
  | .compare left _ right => left.values ++ right.values
  | .isNull left _ => left.values
  | .between left _ low high => left.values ++ low.values ++ high.values
  -- nothing is asked of the left side when there is nothing to be a member of
  | .member left _ values => if values.isEmpty then [] else left.values ++ Expr.valuesAll values
  | .memberOf left _ q => left.values ++ q.values
  | .exists _ q => q.values
  | .group clauses => Clause.valuesAll clauses
  | .raw r => r.binds

def Clause.valuesAll : List Clause → List Value
  | [] => []
  | ⟨_, condition⟩ :: rest => condition.values ++ Clause.valuesAll rest

def Join.valuesAll : List Join → List Value
  | [] => []
  | ⟨_, on⟩ :: rest => Clause.valuesAll on ++ Join.valuesAll rest

def Cte.valuesAll : List Cte → List Value
  | [] => []
  | ⟨_, _, body⟩ :: rest => body.values ++ Cte.valuesAll rest

def Select.values : Select → List Value
  | ⟨ctes, _, _, selections, _, joins, filter, groups, order, _⟩ =>
    Cte.valuesAll ctes ++ selections.flatMap (·.operand.values) ++ Join.valuesAll joins ++
      Clause.valuesAll filter ++ groups.flatMap Operand.values ++ order.flatMap Order.values

end

-- The values of the rows stand in the order of the columns.
def Insert.values (q : Insert) : List Value :=
  Cte.valuesAll q.ctes ++
    q.rows.flatMap fun row => (united q.rows).flatMap fun column =>
      ((row.lookup column).map Expr.values).getD []

def Update.values (q : Update) : List Value :=
  Cte.valuesAll q.ctes ++ q.sets.flatMap (·.2.values) ++ Clause.valuesAll q.filter

def Delete.values (q : Delete) : List Value := Cte.valuesAll q.ctes ++ Clause.valuesAll q.filter

-- The values that a query binds, in the order in which it writes them.
def Query.values : Query → List Value
  | select q => q.values
  | insert q => q.values
  | update q => q.values
  | delete q => q.values

namespace Part

-- The values bound by parts.
def values : List Part → List Value
  | [] => []
  | raw r :: ps => r.binds ++ values ps
  | value v :: ps => v :: values ps
  | _ :: ps => values ps

-- The values bound by one part.
def bound : Part → List Value
  | raw r => r.binds
  | value v => [v]
  | _ => []

@[simp] theorem silent_bound : Silent bound := ⟨fun _ => rfl, fun _ => rfl⟩

theorem values_eq_flatMap (ps : List Part) : values ps = ps.flatMap bound := by
  induction ps with
  | nil => rfl
  | cons p ps ih => cases p <;> simp [values, bound, ih]

variable {ps qs : List Part} {pss : List (List Part)} {leds : List (String × List Part)}

@[simp] theorem values_append : values (ps ++ qs) = values ps ++ values qs := by
  simp [values_eq_flatMap]

@[simp] theorem values_joined : values (joined leds) = leds.flatMap fun led => values led.2 := by
  simp [values_eq_flatMap]

@[simp] theorem values_separated (separator : String) :
    values (separated separator pss) = pss.flatMap values := by
  simp [funext values_eq_flatMap]

@[simp] theorem values_clause (before after : String) :
    values (clause before leds after) = leds.flatMap fun led => values led.2 := by
  simp [values_eq_flatMap]

@[simp] theorem values_listClause (before after : String) :
    values (listClause before pss after) = pss.flatMap values := by
  simp [funext values_eq_flatMap]

@[simp] theorem values_names (columns : List String) : values (names columns) = [] := by
  simp [values_eq_flatMap]

@[simp] theorem values_table (n : String) : values (table n) = [] := by
  simp [values_eq_flatMap]

@[simp] theorem values_aliasing (alias? : Option String) : values (aliasing alias?) = [] := by
  simp [values_eq_flatMap]

end Part

variable {d : Dialect} {scopes : List Scope}

@[simp] theorem TableRef.values_parts (t : TableRef) : Part.values t.parts = [] := by
  simp [parts]

theorem Operand.values_parts (o : Operand) : Part.values (o.parts scopes) = o.values := by
  cases o <;> simp [parts, Part.values, values]

theorem Selection.values_parts (s : Selection) : Part.values (s.parts scopes) = s.operand.values := by
  simp [parts, Operand.values_parts]

theorem Order.values_parts (o : Order) : Part.values (o.parts d scopes) = o.values := by
  cases o <;> simp [parts, values, Operand.values_parts, Part.values]

theorem values_selectionParts (whole : Bool) (table : TableRef) (selections : List Selection) :
    Part.values (selectionParts scopes whole table selections) =
      selections.flatMap (·.operand.values) := by
  unfold selectionParts
  split
  case isTrue h =>
    rw [List.isEmpty_iff.mp h]
    split <;> rfl
  case isFalse => simp [List.flatMap_map, Selection.values_parts]

theorem values_orderParts (selections : List Selection) (order : List Order) :
    Part.values (orderParts selections order) = [] := by
  unfold orderParts
  cases unselected? selections order <;> rfl

mutual

theorem Expr.values_parts (scopes : List Scope) :
    (e : Expr) → Part.values (e.parts d scopes) = e.values
  | .operand o => by rw [Expr.parts, Expr.values, o.values_parts]
  | .value v => rfl
  | .subquery q => by simp [Expr.parts, Expr.values, Part.values, q.values_parts scopes]

theorem Expr.values_partsEach (scopes : List Scope) : (es : List Expr) →
    (Expr.partsEach d scopes es).flatMap Part.values = Expr.valuesAll es
  | [] => rfl
  | e :: es => by
    rw [Expr.partsEach, List.flatMap_cons, e.values_parts scopes, Expr.values_partsEach scopes es,
      Expr.valuesAll]

theorem Condition.values_parts (scopes : List Scope) :
    (c : Condition) → Part.values (c.parts d scopes) = c.values
  | .compare left op right => by
    simp [Condition.parts, Condition.values, Part.values, left.values_parts, right.values_parts scopes]
  | .isNull left negated => by
    simp [Condition.parts, Condition.values, Part.values, left.values_parts]
  | .between left negated low high => by
    simp [Condition.parts, Condition.values, Part.values, left.values_parts, low.values_parts scopes,
      high.values_parts scopes]
  | .member left negated values => by
    rw [Condition.parts, Condition.values]
    split
    case isTrue => rfl
    case isFalse => simp [Part.values, left.values_parts, Expr.values_partsEach scopes values]
  | .memberOf left negated q => by
    simp [Condition.parts, Condition.values, Part.values, left.values_parts, q.values_parts scopes]
  | .exists negated q => by
    simp [Condition.parts, Condition.values, Part.values, q.values_parts scopes]
  | .group clauses => by
    simp [Condition.parts, Condition.values, Part.values, Clause.values_partsEach scopes clauses]
  | .raw r => by simp [Condition.parts, Condition.values, Part.values]

theorem Clause.values_partsEach (scopes : List Scope) : (cs : List Clause) →
    ((Clause.partsEach d scopes cs).flatMap fun led => Part.values led.2) = Clause.valuesAll cs
  | [] => rfl
  | ⟨_, condition⟩ :: rest => by
    rw [Clause.partsEach, List.flatMap_cons, condition.values_parts scopes,
      Clause.values_partsEach scopes rest, Clause.valuesAll]

theorem Join.values_partsAll (scopes : List Scope) :
    (js : List Join) → Part.values (Join.partsAll d scopes js) = Join.valuesAll js
  | [] => rfl
  | ⟨_, on⟩ :: rest => by
    simp [Join.partsAll, Join.valuesAll, Part.values, Clause.values_partsEach scopes on,
      Join.values_partsAll scopes rest]

theorem Cte.values_partsEach (scopes : List Scope) : (cs : List Cte) →
    (Cte.partsEach d scopes cs).flatMap Part.values = Cte.valuesAll cs
  | [] => rfl
  | ⟨_, _, body⟩ :: rest => by
    simp [Cte.partsEach, Cte.valuesAll, Part.values, body.values_parts scopes,
      Cte.values_partsEach scopes rest]

theorem Select.values_parts (outer : List Scope) :
    (q : Select) → Part.values (q.parts d outer) = q.values
  | ⟨ctes, distinct, whole, selections, table, joins, filter, groups, order, page⟩ => by
    simp [Select.parts, Select.values, Part.values, values_orderParts, values_selectionParts,
      Cte.values_partsEach outer ctes, Join.values_partsAll _ joins, Clause.values_partsEach _ filter,
      List.flatMap_map, Operand.values_parts, Order.values_parts]

end

namespace Insert

variable (q : Insert)

theorem values_cellParts (row : Assignments) (column : String) :
    Part.values (cellParts d row column) = ((row.lookup column).map Expr.values).getD [] := by
  unfold cellParts
  cases row.lookup column
  case none => rfl
  case some e => exact e.values_parts []

theorem values_rowParts (columns : List String) (row : Assignments) :
    Part.values (rowParts d columns row) =
      columns.flatMap fun column => ((row.lookup column).map Expr.values).getD [] := by
  simp [rowParts, Part.values, List.flatMap_map, values_cellParts]

theorem values_defaultParts (rows : List Assignments) : Part.values (defaultParts d rows) = [] := by
  unfold defaultParts
  split <;> rfl

theorem values_rowsParts :
    Part.values (q.rowsParts d) = q.rows.flatMap fun row => (united q.rows).flatMap fun column =>
      ((row.lookup column).map Expr.values).getD [] := by
  unfold rowsParts
  split
  case isTrue h => simp [values_defaultParts, List.isEmpty_iff.mp h]
  case isFalse => simp [Part.values, List.flatMap_map, values_rowParts]

theorem values_verbParts : Part.values (q.verbParts d) = [] := by
  unfold verbParts
  split <;> rfl

theorem values_conflictParts : Part.values (q.conflictParts d) = [] := by
  simp [Part.values_eq_flatMap]

theorem values_parts (h : q.rows ≠ []) : Part.values (q.parts d) = q.values := by
  unfold parts values
  rw [if_neg (by simpa using h)]
  simp [Part.values, Cte.values_partsEach, values_verbParts, values_rowsParts, values_conflictParts]

end Insert

theorem Update.values_parts (q : Update) (h : q.sets ≠ []) : Part.values (q.parts d) = q.values := by
  unfold parts values
  rw [if_neg (by simpa using h)]
  simp [Part.values, Cte.values_partsEach, Clause.values_partsEach, List.flatMap_map, setParts,
    Expr.values_parts]

theorem Delete.values_parts (q : Delete) : Part.values (q.parts d) = q.values := by
  simp [parts, values, Part.values, Cte.values_partsEach, Clause.values_partsEach]

-- All binds of raw text are written where it has a placeholder for each.
theorem Raw.values_pieces {r : Raw} (h : Piece.firstFault? r.pieces = none) :
    Piece.values r.pieces = r.binds := by
  have hgo (ms : List Raw.Mark) (vs : List Value)
      (h : Piece.firstFault? (Raw.pieces.go r ms vs) = none) :
      Piece.values (Raw.pieces.go r ms vs) = vs := by
    fun_induction Raw.pieces.go r ms vs with
    | case1 => rfl
    | case2 | case4 => cases h
    | case3 c ms vs ih => exact ih h
    | case5 ms v vs ih => rw [Piece.values_value, ih h]
  exact hgo _ _ h

theorem Part.values_allPieces {ps : List Part} (h : Piece.firstFault? (allPieces d ps) = none) :
    Piece.values (allPieces d ps) = values ps := by
  induction ps with
  | nil => rfl
  | cons p ps ih =>
    have hcons : allPieces d (p :: ps) = p.pieces d ++ allPieces d ps := List.flatMap_cons
    rw [hcons, Piece.firstFault?_append, Option.or_eq_none_iff] at h
    rw [hcons, Piece.values_append, ih h.2]
    cases p
    case raw r => rw [pieces, Raw.values_pieces h.1, values]
    all_goals rfl

-- The parameters of a statement are the values of its query.
theorem Query.params_eq_values {q : Query} {s : Statement} (h : q.compile d = .ok s) : s.params = q.values := by
  obtain ⟨hf, rfl⟩ := eq_of_compile h
  rw [pieces] at hf
  dsimp only
  rw [pieces, Part.values_allPieces hf]
  cases q
  case select q => exact q.values_parts []
  case insert q =>
    refine q.values_parts fun hr => ?_
    simp [parts, Insert.parts, hr, Part.allPieces, Part.pieces, Piece.firstFault?, Piece.fault?] at hf
  case update q =>
    refine q.values_parts fun hs => ?_
    simp [parts, Update.parts, hs, Part.allPieces, Part.pieces, Piece.firstFault?, Piece.fault?] at hf
  case delete q => exact q.values_parts

end SqlBuilder.Sql
