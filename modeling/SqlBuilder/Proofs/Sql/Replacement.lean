import SqlBuilder.Proofs.Sql.Arrangement
import SqlBuilder.Proofs.Sql.Values
/-!
Queries with other values in the same places. What is written does not depend on values: putting others
in their places changes the parameters of a statement and nothing else.
-/
namespace SqlBuilder.Sql

variable (f : Value → Value)

def Raw.mapValues (r : Raw) : Raw := { r with binds := r.binds.map f }

def Operand.mapValues : Operand → Operand
  | column c => column c
  | raw r => raw (r.mapValues f)

def Selection.mapValues (s : Selection) : Selection := { s with operand := s.operand.mapValues f }

def Order.mapValues : Order → Order
  | operand o direction => operand (o.mapValues f) direction
  | output name direction => output name direction
  | raw r => raw (r.mapValues f)
  | random => random

mutual

-- The same expression with other values in its places.
def Expr.mapValues (f : Value → Value) : Expr → Expr
  | .operand o => .operand (o.mapValues f)
  | .value v => .value (f v)
  | .subquery q => .subquery (q.mapValues f)

def Expr.mapValuesEach (f : Value → Value) : List Expr → List Expr
  | [] => []
  | e :: es => e.mapValues f :: Expr.mapValuesEach f es

def Condition.mapValues (f : Value → Value) : Condition → Condition
  | .compare left op right => .compare (left.mapValues f) op (right.mapValues f)
  | .isNull left negated => .isNull (left.mapValues f) negated
  | .between left negated low high =>
    .between (left.mapValues f) negated (low.mapValues f) (high.mapValues f)
  | .member left negated values => .member (left.mapValues f) negated (Expr.mapValuesEach f values)
  | .memberOf left negated q => .memberOf (left.mapValues f) negated (q.mapValues f)
  | .exists negated q => .exists negated (q.mapValues f)
  | .group clauses => .group (Clause.mapValuesEach f clauses)
  | .raw r => .raw (r.mapValues f)

def Clause.mapValuesEach (f : Value → Value) : List Clause → List Clause
  | [] => []
  | ⟨conjunction, condition⟩ :: rest =>
    ⟨conjunction, condition.mapValues f⟩ :: Clause.mapValuesEach f rest

def Join.mapValuesEach (f : Value → Value) : List Join → List Join
  | [] => []
  | ⟨table, on⟩ :: rest => ⟨table, Clause.mapValuesEach f on⟩ :: Join.mapValuesEach f rest

def Cte.mapValuesEach (f : Value → Value) : List Cte → List Cte
  | [] => []
  | ⟨name, columns, body⟩ :: rest => ⟨name, columns, body.mapValues f⟩ :: Cte.mapValuesEach f rest

def Select.mapValues (f : Value → Value) : Select → Select
  | ⟨ctes, distinct, whole, selections, table, joins, filter, groups, order, page⟩ =>
    ⟨Cte.mapValuesEach f ctes, distinct, whole, selections.map (Selection.mapValues f), table,
      Join.mapValuesEach f joins, Clause.mapValuesEach f filter, groups.map (Operand.mapValues f),
      order.map (Order.mapValues f), page⟩

end

def Assignments.mapValues (as : Assignments) : Assignments := as.map fun a => (a.1, a.2.mapValues f)

def Insert.mapValues (q : Insert) : Insert :=
  { q with ctes := Cte.mapValuesEach f q.ctes, rows := q.rows.map (Assignments.mapValues f) }

def Update.mapValues (q : Update) : Update :=
  { q with
    ctes := Cte.mapValuesEach f q.ctes
    sets := q.sets.mapValues f
    filter := Clause.mapValuesEach f q.filter }

def Delete.mapValues (q : Delete) : Delete :=
  { q with ctes := Cte.mapValuesEach f q.ctes, filter := Clause.mapValuesEach f q.filter }

def Query.mapValues : Query → Query
  | select q => select (q.mapValues f)
  | insert q => insert (q.mapValues f)
  | update q => update (q.mapValues f)
  | delete q => delete (q.mapValues f)

-- The query with all its values forgotten. Queries that differ in their values alone have one blank.
def Query.blank (q : Query) : Query := q.mapValues fun _ => .null

def Statement.mapValues (s : Statement) : Statement := { s with params := s.params.map f }

def Piece.mapValues : Piece → Piece
  | text s => text s
  | value v => value (f v)
  | fault e => fault e

namespace Part

def mapValues : Part → Part
  | text s => text s
  | name part => name part
  | column scopes c => column scopes c
  | raw r => raw (r.mapValues f)
  | value v => value (f v)
  | fault e => fault e

variable {f}

@[simp] theorem keeps_mapValues : Keeps (mapValues f) := ⟨fun _ => rfl, fun _ => rfl⟩

end Part

variable {f} {d : Dialect} {scopes : List Scope}

theorem Operand.parts_mapValues (o : Operand) :
    (o.mapValues f).parts scopes = (o.parts scopes).map (Part.mapValues f) := by
  cases o <;> rfl

theorem Selection.parts_mapValues (s : Selection) :
    (s.mapValues f).parts scopes = (s.parts scopes).map (Part.mapValues f) := by
  simp [parts, mapValues, Operand.parts_mapValues]

theorem Order.parts_mapValues (o : Order) :
    (o.mapValues f).parts d scopes = (o.parts d scopes).map (Part.mapValues f) := by
  cases o <;> simp [parts, mapValues, Operand.parts_mapValues, Part.mapValues]

theorem selectionParts_mapValues (whole : Bool) (table : TableRef) (selections : List Selection) :
    selectionParts scopes whole table (selections.map (Selection.mapValues f)) =
      (selectionParts scopes whole table selections).map (Part.mapValues f) := by
  unfold selectionParts
  rw [List.isEmpty_map]
  split
  case isTrue => split <;> rfl
  case isFalse => simp [Function.comp_def, Selection.parts_mapValues]

theorem outputs_mapValues (selections : List Selection) :
    outputs (selections.map (Selection.mapValues f)) = outputs selections := by
  fun_induction outputs selections with
  | case1 => rfl
  | case2 _ given rest ih | case3 c rest ih => exact congrArg (_ :: ·) ih
  | case4 r rest ih => exact ih

theorem orderedBy_mapValues (order : List Order) :
    orderedBy (order.map (Order.mapValues f)) = orderedBy order := by
  fun_induction orderedBy order with
  | case1 => rfl
  | case2 name _ rest ih => exact congrArg (name :: ·) ih
  | case3 _ _ rest ih | case4 _ rest ih | case5 rest ih => exact ih

-- Neither the names that are output nor those that are ordered by depend on values.
theorem unselected?_mapValues (selections : List Selection) (order : List Order) :
    unselected? (selections.map (Selection.mapValues f)) (order.map (Order.mapValues f)) =
      unselected? selections order := by
  rw [unselected?, List.isEmpty_map, outputs_mapValues, orderedBy_mapValues, unselected?]

theorem orderParts_mapValues (selections : List Selection) (order : List Order) :
    orderParts (selections.map (Selection.mapValues f)) (order.map (Order.mapValues f)) =
      (orderParts selections order).map (Part.mapValues f) := by
  unfold orderParts
  rw [unselected?_mapValues]
  cases unselected? selections order <;> rfl

theorem Expr.isEmpty_mapValuesEach (es : List Expr) : (Expr.mapValuesEach f es).isEmpty = es.isEmpty := by
  cases es <;> rfl

theorem Join.map_table_mapValuesEach (js : List Join) :
    (Join.mapValuesEach f js).map Join.table = js.map Join.table := by
  induction js with
  | nil => rfl
  | cons j js ih =>
    obtain ⟨table, on⟩ := j
    simp [Join.mapValuesEach, ih]

mutual

theorem Expr.parts_mapValues (scopes : List Scope) :
    (e : Expr) → (e.mapValues f).parts d scopes = (e.parts d scopes).map (Part.mapValues f)
  | .operand o => by simp only [Expr.mapValues, Expr.parts, o.parts_mapValues]
  | .value v => by simp only [Expr.mapValues, Expr.parts, Part.mapValues, List.map]
  | .subquery q => by
    simp only [Expr.mapValues, Expr.parts, q.parts_mapValues scopes, List.map_cons, List.map_append,
      List.map_nil, Part.mapValues]

theorem Expr.partsEach_mapValues (scopes : List Scope) : (es : List Expr) →
    Expr.partsEach d scopes (Expr.mapValuesEach f es) =
      (Expr.partsEach d scopes es).map (List.map (Part.mapValues f))
  | [] => rfl
  | e :: es => by
    simp only [Expr.mapValuesEach, Expr.partsEach, e.parts_mapValues scopes,
      Expr.partsEach_mapValues scopes es, List.map_cons]

theorem Condition.parts_mapValues (scopes : List Scope) :
    (c : Condition) → (c.mapValues f).parts d scopes = (c.parts d scopes).map (Part.mapValues f)
  | .compare left op right => by
    simp [Condition.mapValues, Condition.parts, left.parts_mapValues, right.parts_mapValues scopes,
      Part.mapValues]
  | .isNull left negated => by
    simp [Condition.mapValues, Condition.parts, left.parts_mapValues, Part.mapValues]
  | .between left negated low high => by
    simp [Condition.mapValues, Condition.parts, left.parts_mapValues, low.parts_mapValues scopes,
      high.parts_mapValues scopes, Part.mapValues]
  | .member left negated values => by
    simp only [Condition.mapValues, Condition.parts, Expr.isEmpty_mapValuesEach]
    split
    case isTrue => rfl
    case isFalse =>
      simp [left.parts_mapValues, Expr.partsEach_mapValues scopes values, Part.mapValues]
  | .memberOf left negated q => by
    simp [Condition.mapValues, Condition.parts, left.parts_mapValues, q.parts_mapValues scopes,
      Part.mapValues]
  | .exists negated q => by
    simp [Condition.mapValues, Condition.parts, q.parts_mapValues scopes, Part.mapValues]
  | .group clauses => by
    simp [Condition.mapValues, Condition.parts, Clause.partsEach_mapValues scopes clauses,
      Part.mapValues]
  | .raw r => by simp [Condition.mapValues, Condition.parts, Part.mapValues]

theorem Clause.partsEach_mapValues (scopes : List Scope) : (cs : List Clause) →
    Clause.partsEach d scopes (Clause.mapValuesEach f cs) =
      (Clause.partsEach d scopes cs).map fun led => (led.1, led.2.map (Part.mapValues f))
  | [] => rfl
  | ⟨_, condition⟩ :: rest => by
    simp only [Clause.mapValuesEach, Clause.partsEach, condition.parts_mapValues scopes,
      Clause.partsEach_mapValues scopes rest, List.map_cons]

theorem Join.partsAll_mapValues (scopes : List Scope) : (js : List Join) →
    Join.partsAll d scopes (Join.mapValuesEach f js) =
      (Join.partsAll d scopes js).map (Part.mapValues f)
  | [] => rfl
  | ⟨_, on⟩ :: rest => by
    simp [Join.mapValuesEach, Join.partsAll, Clause.partsEach_mapValues scopes on,
      Join.partsAll_mapValues scopes rest, Part.mapValues]

theorem Cte.partsEach_mapValues (scopes : List Scope) : (cs : List Cte) →
    Cte.partsEach d scopes (Cte.mapValuesEach f cs) =
      (Cte.partsEach d scopes cs).map (List.map (Part.mapValues f))
  | [] => rfl
  | ⟨_, _, body⟩ :: rest => by
    simp [Cte.mapValuesEach, Cte.partsEach, body.parts_mapValues scopes,
      Cte.partsEach_mapValues scopes rest, Part.mapValues]

theorem Select.parts_mapValues (outer : List Scope) :
    (q : Select) → (q.mapValues f).parts d outer = (q.parts d outer).map (Part.mapValues f)
  | ⟨ctes, distinct, whole, selections, table, joins, filter, groups, order, page⟩ => by
    simp [Select.mapValues, Select.parts, Join.map_table_mapValuesEach, orderParts_mapValues,
      selectionParts_mapValues, Cte.partsEach_mapValues outer ctes, Join.partsAll_mapValues _ joins,
      Clause.partsEach_mapValues _ filter, Part.mapValues, Function.comp_def, Operand.parts_mapValues,
      Order.parts_mapValues]

end

theorem Assignments.lookup_mapValues (as : Assignments) (column : String) :
    (as.mapValues f).lookup column = (as.lookup column).map (Expr.mapValues f) := by
  simp [lookup_eq_get?, mapValues, get?, List.find?_map, Function.comp_def]

namespace Insert

variable (q : Insert)

theorem united_mapValues (rows : List Assignments) :
    united (rows.map (Assignments.mapValues f)) = united rows := by
  simp [united, Assignments.mapValues, List.map_flatten, Function.comp_def]

theorem cellParts_mapValues (row : Assignments) (column : String) :
    cellParts d (row.mapValues f) column = (cellParts d row column).map (Part.mapValues f) := by
  unfold cellParts
  rw [Assignments.lookup_mapValues]
  cases row.lookup column
  case none => rfl
  case some e => exact e.parts_mapValues []

theorem rowParts_mapValues (columns : List String) (row : Assignments) :
    rowParts d columns (row.mapValues f) = (rowParts d columns row).map (Part.mapValues f) := by
  have h : cellParts d (row.mapValues f) = fun column => (cellParts d row column).map (Part.mapValues f) :=
    funext (cellParts_mapValues row)
  simp [rowParts, h, Part.mapValues, Function.comp_def]

theorem defaultParts_mapValues (rows : List Assignments) :
    defaultParts d (rows.map (Assignments.mapValues f)) =
      (defaultParts d rows).map (Part.mapValues f) := by
  cases d
  case mysql => simp [defaultParts, Part.mapValues, Function.comp_def]
  all_goals
    match rows with
    | [] | [_] | _ :: _ :: _ => rfl

theorem rowsParts_mapValues :
    (q.mapValues f).rowsParts d = (q.rowsParts d).map (Part.mapValues f) := by
  have hr : (q.mapValues f).rows = q.rows.map (Assignments.mapValues f) := rfl
  unfold rowsParts
  rw [hr, united_mapValues]
  split
  case isTrue => exact defaultParts_mapValues q.rows
  case isFalse => simp [Part.mapValues, Function.comp_def, rowParts_mapValues]

theorem map_verbParts : (q.verbParts d).map (Part.mapValues f) = q.verbParts d := by
  unfold verbParts
  split <;> rfl

theorem parts_mapValues : (q.mapValues f).parts d = (q.parts d).map (Part.mapValues f) := by
  have hv : (q.mapValues f).verbParts d = q.verbParts d := rfl
  have hc : (q.mapValues f).conflictParts d = q.conflictParts d := rfl
  have ht : (q.mapValues f).table = q.table := rfl
  unfold parts
  rw [hv, hc, ht, rowsParts_mapValues]
  simp only [mapValues, List.isEmpty_map]
  split
  case isTrue => rfl
  case isFalse =>
    simp [Cte.partsEach_mapValues, map_verbParts, Part.mapValues]

end Insert

theorem Update.parts_mapValues (q : Update) : (q.mapValues f).parts d = (q.parts d).map (Part.mapValues f) := by
  simp only [parts, mapValues, Assignments.mapValues, List.isEmpty_map]
  split
  case isTrue => rfl
  case isFalse =>
    simp [Cte.partsEach_mapValues, Clause.partsEach_mapValues, Part.mapValues, Function.comp_def,
      setParts, Expr.parts_mapValues]

theorem Delete.parts_mapValues (q : Delete) : (q.mapValues f).parts d = (q.parts d).map (Part.mapValues f) := by
  simp [parts, mapValues, Cte.partsEach_mapValues, Clause.partsEach_mapValues, Part.mapValues]

namespace Piece

variable {n : Nat} {ps : List Piece}

theorem numbered_mapValues : numbered d n (ps.map (mapValues f)) = numbered d n ps := by
  induction ps generalizing n with
  | nil => rfl
  | cons p ps ih => cases p <;> simp [mapValues, numbered, ih]

theorem values_mapValues : values (ps.map (mapValues f)) = (values ps).map f := by
  induction ps with
  | nil => rfl
  | cons p ps ih => cases p <;> simp [mapValues, ih]

theorem firstFault?_mapValues : firstFault? (ps.map (mapValues f)) = firstFault? ps := by
  have h : fault? ∘ mapValues f = fault? := by
    funext p
    cases p <;> rfl
  rw [firstFault?, List.findSome?_map, h, firstFault?]

end Piece

-- Values take the places of the placeholders without being looked at.
theorem Raw.pieces_mapValues (r : Raw) : (r.mapValues f).pieces = r.pieces.map (Piece.mapValues f) := by
  have h (ms : List Raw.Mark) (vs : List Value) :
      Raw.pieces.go (r.mapValues f) ms (vs.map f) = (Raw.pieces.go r ms vs).map (Piece.mapValues f) := by
    fun_induction Raw.pieces.go r ms vs with
    | case1 | case2 | case4 => rfl
    | case3 c ms vs ih => rw [Raw.pieces.go, ih, List.map_cons, Piece.mapValues]
    | case5 ms v vs ih => rw [List.map_cons, Raw.pieces.go, ih, List.map_cons, Piece.mapValues]
  exact h _ _

theorem Part.allPieces_mapValues (ps : List Part) :
    allPieces d (ps.map (mapValues f)) = (allPieces d ps).map (Piece.mapValues f) := by
  have h (p : Part) : (p.mapValues f).pieces d = (p.pieces d).map (Piece.mapValues f) := by
    cases p
    case raw r => exact r.pieces_mapValues
    all_goals rfl
  simp [allPieces, List.flatMap_map, List.map_flatMap, h]

namespace Query

variable (q : Query)

theorem parts_mapValues : (q.mapValues f).parts d = (q.parts d).map (Part.mapValues f) := by
  cases q
  case select q => exact q.parts_mapValues []
  case insert q => exact q.parts_mapValues
  case update q => exact q.parts_mapValues
  case delete q => exact q.parts_mapValues

theorem kind_mapValues : (q.mapValues f).kind = q.kind := by
  cases q <;> rfl

-- Other values make other parameters, of the same statement or the same error.
theorem compile_mapValues : (q.mapValues f).compile d = (q.compile d).map (Statement.mapValues f) := by
  rw [compile_eq, compile_eq, pieces, parts_mapValues, Part.allPieces_mapValues, kind_mapValues,
    Piece.firstFault?_mapValues, Piece.numbered_mapValues, Piece.values_mapValues, pieces]
  cases Piece.firstFault? (Part.allPieces d (q.parts d)) <;> rfl

-- Two queries that differ in their values alone compile to the same text or fail with the same error,
-- and each has its own values for parameters.
theorem compile_of_blank_eq {q q' : Query} (h : q.blank = q'.blank) (d : Dialect) :
    (∃ s s', q.compile d = .ok s ∧ q'.compile d = .ok s' ∧ s.sql = s'.sql ∧ s.kind = s'.kind ∧
      s.params.length = s'.params.length ∧ s.params = q.values ∧ s'.params = q'.values) ∨
    (∃ e, q.compile d = .error e ∧ q'.compile d = .error e) := by
  have hb : (q.compile d).map (Statement.mapValues fun _ => .null) =
      (q'.compile d).map (Statement.mapValues fun _ => .null) := by
    rw [← compile_mapValues, ← compile_mapValues]
    exact congrArg (compile d) h
  cases hc : q.compile d <;> cases hc' : q'.compile d
  case error.error e e' =>
    rw [hc, hc'] at hb
    cases hb
    exact .inr ⟨e, rfl, rfl⟩
  case ok.ok s s' =>
    simp only [hc, hc', Except.map, Except.ok.injEq, Statement.mapValues, Statement.mk.injEq] at hb
    obtain ⟨hsql, hparams, hkind⟩ := hb
    have hlength : s.params.length = s'.params.length := by
      simpa using congrArg List.length hparams
    exact .inl ⟨s, s', rfl, rfl, hsql, hkind, hlength, params_eq_values hc, params_eq_values hc'⟩
  all_goals simp [hc, hc', Except.map] at hb

-- Two rows that set different columns, with values in a cell, in the list of a subquery and as binds of
-- raw text.
def adoptions (name age factor : Value) : Query := .insert {
  ctes := []
  mode := .insert
  table := "pet"
  rows := [[("name", .value name)], [("owner_id", .subquery owner)]]
  ignore := false
  conflict := none }
where
  owner : Select := {
    ctes := []
    distinct := true
    whole := false
    selections := [⟨.column ⟨"person", "id"⟩, none⟩]
    table := ⟨"person", none⟩
    joins := []
    filter := [
      ⟨.and, .member (.column ⟨"person", "age"⟩) false [.value age]⟩,
      ⟨.or, .raw ⟨"age * ? < 10 and name <> '?'", [factor]⟩⟩]
    groups := []
    order := []
    page := {} }

def adoptionsText : String :=
  "insert into \"pet\" (\"name\", \"owner_id\") values (?1, null), (null, (select distinct \"id\" from \"person\" where \"age\" in (?2) or age * ?3 < 10 and name <> '?'))"

theorem adoptions_blank (name age factor : Value) :
    (adoptions name age factor).blank = adoptions .null .null .null := by
  simp [adoptions, adoptions.owner, blank, mapValues, Insert.mapValues, Assignments.mapValues,
    Cte.mapValuesEach, Expr.mapValues, Select.mapValues, Selection.mapValues, Operand.mapValues,
    Clause.mapValuesEach, Condition.mapValues, Expr.mapValuesEach, Join.mapValuesEach, Raw.mapValues]

theorem adoptions_compile_alike :
    let given := adoptions (.string "'); drop table pet; --") (.i32 3) .null
    let other := adoptions .null (.i32 3) (.bytes [0])
    given.blank = other.blank ∧
      given.compile .sqlite = .ok ⟨adoptionsText, given.values, .insert⟩ ∧
      other.compile .sqlite = .ok ⟨adoptionsText, [.null, .i32 3, .bytes [0]], .insert⟩ := by
  intro given other
  have hb : given.blank = other.blank := (adoptions_blank _ _ _).trans (adoptions_blank _ _ _).symm
  have hc : other.compile .sqlite = .ok ⟨adoptionsText, [.null, .i32 3, .bytes [0]], .insert⟩ := by
    decide +kernel
  obtain ⟨⟨sql, params, kind⟩, s', hs, hs', hsql, hkind, -, hparams, -⟩ | ⟨e, -, he⟩ :=
    compile_of_blank_eq hb .sqlite
  case inl =>
    cases hc.symm.trans hs'
    subst hsql hkind hparams
    exact ⟨hb, hs, hc⟩
  case inr => cases hc.symm.trans he

end Query

end SqlBuilder.Sql
