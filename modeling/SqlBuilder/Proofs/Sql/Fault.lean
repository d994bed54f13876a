import SqlBuilder.Proofs.Sql.Arrangement
import SqlBuilder.Proofs.Sql.Flattening
/-!
What can be wrong with a query, listed in the order in which writing meets it. A query compiles exactly when
nothing is wrong with it, and otherwise fails with the error of what is met first.
-/
namespace SqlBuilder.Sql

-- What can be wrong inside of any query, whatever its dialect.
inductive Flaw where
  -- a select that orders by the name of none of its selections
  | unselected (name : String)
  -- raw text with more or fewer placeholders than binds
  | unmatched (r : Raw)

inductive Fault where
  -- an insert without rows
  | noRows
  -- an update without sets
  | noSets
  | flaw (f : Flaw)
  -- a replace in a dialect that has none
  | replace
  -- several rows without columns in a dialect that has no form for them
  | severalDefaultRows

-- How many placeholders raw text has.
def Raw.placeholders (r : Raw) : Nat := (reading none r.sql.toList).count .hole

def Flaw.error : Flaw → Error
  | unselected name => .unknownSelection name
  | unmatched r => .compile ("raw sql `" ++ r.sql ++ if r.binds.length < r.placeholders then
      "` has more placeholders than bindings" else "` has more bindings than placeholders")

def Fault.error (d : Dialect) : Fault → Error
  | noRows => .emptyInsert
  | noSets => .emptyUpdate
  | flaw f => f.error
  | replace => .unsupported .replace d
  | severalDefaultRows => .unsupported .severalDefaultRows d

def Raw.flaws (r : Raw) : List Flaw := if r.placeholders = r.binds.length then [] else [.unmatched r]

def Operand.flaws : Operand → List Flaw
  | column _ => []
  | raw r => r.flaws

def Order.flaws : Order → List Flaw
  | operand o _ => o.flaws
  | raw r => r.flaws
  | _ => []

def orderFlaws (selections : List Selection) (order : List Order) : List Flaw :=
  ((unselected? selections order).map .unselected).toList

mutual

-- What is wrong in an expression, in the order in which it is written.
def Expr.flaws : Expr → List Flaw
  | .operand o => o.flaws
  | .value _ => []
  | .subquery q => q.flaws

def Expr.flawsAll : List Expr → List Flaw
  | [] => []
  | e :: es => e.flaws ++ Expr.flawsAll es

def Condition.flaws : Condition → List Flaw
  | .compare left _ right => left.flaws ++ right.flaws
  | .isNull left _ => left.flaws
  | .between left _ low high => left.flaws ++ low.flaws ++ high.flaws
  -- nothing is asked of the left side when there is nothing to be a member of
  | .member left _ values => if values.isEmpty then [] else left.flaws ++ Expr.flawsAll values
  | .memberOf left _ q => left.flaws ++ q.flaws
  | .exists _ q => q.flaws
  | .group clauses => Clause.flawsAll clauses
  | .raw r => r.flaws

def Clause.flawsAll : List Clause → List Flaw
  | [] => []
  | ⟨_, condition⟩ :: rest => condition.flaws ++ Clause.flawsAll rest

def Join.flawsAll : List Join → List Flaw
  | [] => []
  | ⟨_, on⟩ :: rest => Clause.flawsAll on ++ Join.flawsAll rest

def Cte.flawsAll : List Cte → List Flaw
  | [] => []
  | ⟨_, _, body⟩ :: rest => body.flaws ++ Cte.flawsAll rest

-- The names of the order are checked before anything else of a select.
def Select.flaws : Select → List Flaw
  | ⟨ctes, _, _, selections, _, joins, filter, groups, order, _⟩ =>
    orderFlaws selections order ++ Cte.flawsAll ctes ++ selections.flatMap (·.operand.flaws) ++
      Join.flawsAll joins ++ Clause.flawsAll filter ++ groups.flatMap Operand.flaws ++
      order.flatMap Order.flaws

end

-- The flaws in the cells of the rows, row by row, each row in the order of the columns.
def Insert.cellFlaws (q : Insert) : List Flaw :=
  q.rows.flatMap fun row => (united q.rows).flatMap fun column =>
    ((row.lookup column).map Expr.flaws).getD []

def Insert.verbFaults (d : Dialect) (q : Insert) : List Fault :=
  if q.mode = .replace ∧ d = .postgres then [.replace] else []

def Insert.rowsFaults (d : Dialect) (q : Insert) : List Fault :=
  if (united q.rows).isEmpty then if 1 < q.rows.length ∧ d ≠ .mysql then [.severalDefaultRows] else []
  else q.cellFlaws.map .flaw

def Insert.faults (d : Dialect) (q : Insert) : List Fault :=
  if q.rows.isEmpty then [.noRows]
  else (Cte.flawsAll q.ctes).map .flaw ++ q.verbFaults d ++ q.rowsFaults d

def Update.faults (q : Update) : List Fault :=
  if q.sets.isEmpty then [.noSets]
  else (Cte.flawsAll q.ctes ++ q.sets.flatMap (·.2.flaws) ++ Clause.flawsAll q.filter).map .flaw

def Delete.flaws (q : Delete) : List Flaw := Cte.flawsAll q.ctes ++ Clause.flawsAll q.filter

-- All that is wrong with a query, in the order in which it is met.
def Query.faults (d : Dialect) : Query → List Fault
  | select q => q.flaws.map .flaw
  | insert q => q.faults d
  | update q => q.faults
  | delete q => q.flaws.map .flaw

variable {d : Dialect} {scopes : List Scope}

-- The errors that writing a part meets.
def Part.errors : Part → List Error
  | raw r => r.flaws.map Flaw.error
  | fault e => [e]
  | _ => []

@[simp] theorem Part.silent_errors : Silent errors := ⟨fun _ => rfl, fun _ => rfl⟩

theorem Operand.errors_parts (o : Operand) :
    (o.parts scopes).flatMap Part.errors = o.flaws.map Flaw.error := by
  cases o <;> simp [parts, Part.errors, flaws]

theorem Selection.errors_parts (s : Selection) :
    (s.parts scopes).flatMap Part.errors = s.operand.flaws.map Flaw.error := by
  simp [parts, Operand.errors_parts]

theorem Order.errors_parts (o : Order) :
    (o.parts d scopes).flatMap Part.errors = o.flaws.map Flaw.error := by
  cases o <;> simp [parts, flaws, Operand.errors_parts, Part.errors]

theorem errors_selectionParts (whole : Bool) (table : TableRef) (selections : List Selection) :
    (selectionParts scopes whole table selections).flatMap Part.errors =
      (selections.flatMap (·.operand.flaws)).map Flaw.error := by
  unfold selectionParts
  split
  case isTrue h =>
    rw [List.isEmpty_iff.mp h]
    split <;> rfl
  case isFalse => simp [List.flatMap_map, List.map_flatMap, Selection.errors_parts]

theorem errors_orderParts (selections : List Selection) (order : List Order) :
    (orderParts selections order).flatMap Part.errors =
      (orderFlaws selections order).map Flaw.error := by
  unfold orderParts orderFlaws
  cases unselected? selections order <;> rfl

mutual

theorem Expr.errors_parts (scopes : List Scope) : (e : Expr) →
    (e.parts d scopes).flatMap Part.errors = e.flaws.map Flaw.error
  | .operand o => by rw [Expr.parts, Expr.flaws, o.errors_parts]
  | .value v => rfl
  | .subquery q => by simp [Expr.parts, Expr.flaws, Part.errors, q.errors_parts scopes]

theorem Expr.errors_partsEach (scopes : List Scope) : (es : List Expr) →
    ((Expr.partsEach d scopes es).flatMap fun ps => ps.flatMap Part.errors) =
      (Expr.flawsAll es).map Flaw.error
  | [] => rfl
  | e :: es => by
    rw [Expr.partsEach, List.flatMap_cons, e.errors_parts scopes, Expr.errors_partsEach scopes es,
      Expr.flawsAll, List.map_append]

theorem Condition.errors_parts (scopes : List Scope) : (c : Condition) →
    (c.parts d scopes).flatMap Part.errors = c.flaws.map Flaw.error
  | .compare left op right => by
    simp [Condition.parts, Condition.flaws, Part.errors, left.errors_parts, right.errors_parts scopes]
  | .isNull left negated => by
    simp [Condition.parts, Condition.flaws, Part.errors, left.errors_parts]
  | .between left negated low high => by
    simp [Condition.parts, Condition.flaws, Part.errors, left.errors_parts, low.errors_parts scopes,
      high.errors_parts scopes]
  | .member left negated values => by
    rw [Condition.parts, Condition.flaws]
    split
    case isTrue => rfl
    case isFalse => simp [Part.errors, left.errors_parts, Expr.errors_partsEach scopes values]
  | .memberOf left negated q => by
    simp [Condition.parts, Condition.flaws, Part.errors, left.errors_parts, q.errors_parts scopes]
  | .exists negated q => by
    simp [Condition.parts, Condition.flaws, Part.errors, q.errors_parts scopes]
  | .group clauses => by
    simp [Condition.parts, Condition.flaws, Part.errors, Clause.errors_partsEach scopes clauses]
  | .raw r => by simp [Condition.parts, Condition.flaws, Part.errors]

theorem Clause.errors_partsEach (scopes : List Scope) : (cs : List Clause) →
    ((Clause.partsEach d scopes cs).flatMap fun led => led.2.flatMap Part.errors) =
      (Clause.flawsAll cs).map Flaw.error
  | [] => rfl
  | ⟨_, condition⟩ :: rest => by
    rw [Clause.partsEach, List.flatMap_cons, condition.errors_parts scopes,
      Clause.errors_partsEach scopes rest, Clause.flawsAll, List.map_append]

theorem Join.errors_partsAll (scopes : List Scope) : (js : List Join) →
    (Join.partsAll d scopes js).flatMap Part.errors = (Join.flawsAll js).map Flaw.error
  | [] => rfl
  | ⟨_, on⟩ :: rest => by
    simp [Join.partsAll, Join.flawsAll, Part.errors, Clause.errors_partsEach scopes on,
      Join.errors_partsAll scopes rest]

theorem Cte.errors_partsEach (scopes : List Scope) : (cs : List Cte) →
    ((Cte.partsEach d scopes cs).flatMap fun ps => ps.flatMap Part.errors) =
      (Cte.flawsAll cs).map Flaw.error
  | [] => rfl
  | ⟨_, _, body⟩ :: rest => by
    simp [Cte.partsEach, Cte.flawsAll, Part.errors, body.errors_parts scopes,
      Cte.errors_partsEach scopes rest]

theorem Select.errors_parts (outer : List Scope) : (q : Select) →
    (q.parts d outer).flatMap Part.errors = q.flaws.map Flaw.error
  | ⟨ctes, distinct, whole, selections, table, joins, filter, groups, order, page⟩ => by
    simp [Select.parts, Select.flaws, Part.errors, errors_orderParts, errors_selectionParts,
      Cte.errors_partsEach outer ctes, Join.errors_partsAll _ joins, Clause.errors_partsEach _ filter,
      List.flatMap_map, List.map_flatMap, Operand.errors_parts, Order.errors_parts]

end

@[simp] theorem Fault.error_comp_flaw : error d ∘ flaw = Flaw.error := rfl

namespace Insert

variable (q : Insert)

theorem errors_cellParts (row : Assignments) (column : String) :
    (cellParts d row column).flatMap Part.errors =
      (((row.lookup column).map Expr.flaws).getD []).map Flaw.error := by
  unfold cellParts
  cases row.lookup column
  case none => rfl
  case some e => exact e.errors_parts []

theorem errors_rowParts (columns : List String) (row : Assignments) :
    (rowParts d columns row).flatMap Part.errors =
      (columns.flatMap fun column => ((row.lookup column).map Expr.flaws).getD []).map Flaw.error := by
  simp [rowParts, Part.errors, List.flatMap_map, List.map_flatMap, errors_cellParts]

theorem errors_defaultParts (h : q.rows ≠ []) :
    (defaultParts d q.rows).flatMap Part.errors =
      (if 1 < q.rows.length ∧ d ≠ .mysql then [Fault.severalDefaultRows] else []).map (Fault.error d) := by
  match q.rows, h with
  | [_], _ => cases d <;> rfl
  | _ :: _ :: _, _ => cases d <;> simp [defaultParts, Part.errors, Fault.error]

theorem errors_rowsParts (h : q.rows ≠ []) :
    (q.rowsParts d).flatMap Part.errors = (q.rowsFaults d).map (Fault.error d) := by
  unfold rowsParts rowsFaults
  split
  case isTrue => exact errors_defaultParts q h
  case isFalse => simp [cellFlaws, Part.errors, List.flatMap_map, List.map_flatMap, errors_rowParts]

theorem errors_verbParts : (q.verbParts d).flatMap Part.errors = (q.verbFaults d).map (Fault.error d) := by
  unfold verbParts verbFaults
  cases d <;> by_cases h : q.mode = .replace <;> simp [h, Dialect.hasReplace, Part.errors, Fault.error]

theorem errors_parts : (q.parts d).flatMap Part.errors = (q.faults d).map (Fault.error d) := by
  unfold parts faults
  split
  case isTrue => rfl
  case isFalse h =>
    have hr : q.rows ≠ [] := by simpa using h
    simp [Part.errors, Cte.errors_partsEach, errors_verbParts, errors_rowsParts q hr]

end Insert

theorem Update.errors_parts (q : Update) : (q.parts d).flatMap Part.errors = q.faults.map (Fault.error d) := by
  unfold parts faults
  split
  case isTrue => rfl
  case isFalse =>
    simp [Part.errors, Cte.errors_partsEach, Clause.errors_partsEach, List.flatMap_map, List.map_flatMap,
      setParts, Expr.errors_parts]

theorem Delete.errors_parts (q : Delete) : (q.parts d).flatMap Part.errors = q.flaws.map Flaw.error := by
  simp [parts, flaws, Part.errors, Cte.errors_partsEach, Clause.errors_partsEach]

theorem Query.errors_parts (q : Query) :
    (q.parts d).flatMap Part.errors = (q.faults d).map (Fault.error d) := by
  cases q
  case select q =>
    rw [faults, List.map_map, Fault.error_comp_flaw]
    exact q.errors_parts []
  case insert q => exact q.errors_parts
  case update q => exact q.errors_parts
  case delete q =>
    rw [faults, List.map_map, Fault.error_comp_flaw]
    exact q.errors_parts

theorem Flaw.error_of_tooFew {r : Raw} (h : r.binds.length < r.placeholders) :
    (unmatched r).error = r.tooFewBinds := by
  rw [error, if_pos h, Raw.tooFewBinds]

theorem Flaw.error_of_tooMany {r : Raw} (h : r.placeholders < r.binds.length) :
    (unmatched r).error = r.tooManyBinds := by
  rw [error, if_neg (Nat.not_lt.mpr h.le), Raw.tooManyBinds]

-- Raw text is written to its end when it has as many placeholders as binds, and otherwise it stops with
-- the binds that are missing or left over.
theorem Raw.firstFault?_pieces (r : Raw) :
    Piece.firstFault? r.pieces = (r.flaws.map Flaw.error).head? := by
  have h (ms : List Raw.Mark) (vs : List Value) : Piece.firstFault? (Raw.pieces.go r ms vs) =
      if vs.length < ms.count .hole then some r.tooFewBinds
      else if ms.count .hole < vs.length then some r.tooManyBinds else none := by
    fun_induction Raw.pieces.go r ms vs with
    | case1 => rfl
    | case2 => rfl
    | case3 c ms vs ih =>
      rw [Piece.firstFault?, List.findSome?_cons, ← Piece.firstFault?, ih]
      simp [Piece.fault?]
    | case4 => simp [Piece.firstFault?, Piece.fault?]
    | case5 ms v vs ih =>
      rw [Piece.firstFault?, List.findSome?_cons, ← Piece.firstFault?, ih]
      simp [Piece.fault?]
  rw [Raw.pieces, h, flaws, ← placeholders]
  split
  case isTrue hl => simp [Flaw.error_of_tooFew hl, Nat.ne_of_gt hl]
  case isFalse hl =>
    split
    case isTrue hg => simp [Flaw.error_of_tooMany hg, Nat.ne_of_lt hg]
    case isFalse hg => simp [Nat.le_antisymm (Nat.le_of_not_lt hl) (Nat.le_of_not_lt hg)]

theorem Part.firstFault?_allPieces (ps : List Part) :
    Piece.firstFault? (allPieces d ps) = (ps.flatMap errors).head? := by
  induction ps with
  | nil => rfl
  | cons p ps ih =>
    have h : Piece.firstFault? (p.pieces d) = p.errors.head? := by
      cases p
      case raw r => exact r.firstFault?_pieces
      all_goals rfl
    rw [allPieces, List.flatMap_cons, ← allPieces, Piece.firstFault?_append, h, ih, List.flatMap_cons,
      List.head?_append]

-- The error of a fault says what is wrong.
theorem Fault.error_ne_unexplained (f : Fault) : f.error d ≠ Query.unexplained := by
  intro h
  cases f
  case flaw f =>
    cases f
    case unselected name => cases h
    case unmatched r =>
      rw [error, Flaw.error] at h
      split at h
      all_goals
        have hs := congrArg String.toList (Error.compile.inj h)
        simp at hs
  all_goals cases h

namespace Query

variable {q : Query}

theorem compile_of_faults (q : Query) :
    q.compile d = match q.faults d with
      | [] => .ok ⟨Piece.numbered d 1 (q.pieces d), Piece.values (q.pieces d), q.kind⟩
      | f :: _ => .error (f.error d) := by
  have h : Piece.firstFault? (q.pieces d) = ((q.faults d).map (Fault.error d)).head? := by
    rw [pieces, Part.firstFault?_allPieces, errors_parts]
  rw [compile_eq, h]
  cases q.faults d <;> rfl

theorem compile_eq_error_iff {e : Error} :
    q.compile d = .error e ↔ ∃ f, (q.faults d).head? = some f ∧ f.error d = e := by
  rw [compile_of_faults]
  cases q.faults d <;> simp

theorem exists_compile_eq_ok_iff : (∃ s, q.compile d = .ok s) ↔ q.faults d = [] := by
  rw [compile_of_faults]
  cases q.faults d <;> simp

-- A query fails to compile exactly when something is wrong with it, with the error of what is met first, and
-- it never fails without a reason.
theorem compile_fails_with_first (q : Query) (d : Dialect) :
    ((∃ s, q.compile d = .ok s) ↔ q.faults d = []) ∧
    (∀ e, q.compile d = .error e ↔ ∃ f, (q.faults d).head? = some f ∧ f.error d = e) ∧
    q.compile d ≠ .error unexplained := by
  refine ⟨exists_compile_eq_ok_iff, fun e => compile_eq_error_iff, fun h => ?explained⟩
  case explained =>
    obtain ⟨f, -, hf⟩ := compile_eq_error_iff.mp h
    exact f.error_ne_unexplained hf

-- Raw text with more placeholders than binds, and raw text with more binds: what is quoted and what makes an
-- operator is no placeholder.
def short : Raw := ⟨"lower(?) = ?", [.null]⟩

def long : Raw := ⟨"'?' ?? ?", [.null, .null]⟩

-- A select of one column under another name and of one under its own.
def ordering (names : List String) (filter : List Clause) : Select := {
  ctes := []
  distinct := false
  whole := false
  selections := [⟨.column ⟨"person", "first_name"⟩, some "given"⟩, ⟨.column ⟨"person", "age"⟩, none⟩]
  table := ⟨"person", none⟩
  joins := []
  filter := filter
  groups := []
  order := names.map (.output · .asc)
  page := {} }

-- The second row sets its columns in another order than they are written in.
def replacing (ctes : List Cte) : Query := .insert {
  ctes := ctes
  mode := .replace
  table := "book"
  rows := [
    [("title", .value (.string "Emma")), ("note", .value .null)],
    [("note", .operand (.raw short)), ("title", .operand (.raw long))]]
  ignore := false
  conflict := none }

def inserting (ctes : List Cte) (rows : List Assignments) : Query := .insert {
  ctes := ctes
  mode := .insert
  table := "book"
  rows := rows
  ignore := false
  conflict := none }

def setting (sets : Assignments) : Query := .update {
  ctes := []
  table := ⟨"pet", none⟩
  sets := sets
  filter := [⟨.and, .raw long⟩] }

-- Queries with more than one fault, each with the error of the one that is met first.
def refusals : List (Query × Dialect × Error) := [
  (.select (ordering ["age", "first_name", "height"] [⟨.and, .raw short⟩]), .mysql,
    .unknownSelection "first_name"),
  (replacing [⟨"names", ["name"], ordering ["height"] []⟩], .postgres, .unknownSelection "height"),
  (replacing [], .postgres, .unsupported .replace .postgres),
  (replacing [], .sqlite, .compile "raw sql `'?' ?? ?` has more bindings than placeholders"),
  (inserting [⟨"names", ["name"], ordering ["height"] []⟩] [], .sqlite, .emptyInsert),
  (inserting [] [[], []], .sqlite, .unsupported .severalDefaultRows .sqlite),
  (setting [], .mysql, .emptyUpdate),
  (setting [("name", .operand (.raw short))], .mysql,
    .compile "raw sql `lower(?) = ?` has more placeholders than bindings")]

-- Queries without a fault, the first with raw text that is never visited.
def acceptances : List (Query × Dialect × String) := [
  (.select (ordering ["given", "age"] [⟨.and, .member (.raw short) false []⟩]), .postgres,
    "select \"first_name\" as \"given\", \"age\" from \"person\" where 1 = 0 order by \"given\" asc, \"age\" asc"),
  (inserting [] [[], []], .mysql, "insert into `book` () values (), ()")]

theorem refusals_fail_with_first :
    (∀ c ∈ refusals, c.1.compile c.2.1 = .error c.2.2 ∧
      ∃ f, (c.1.faults c.2.1).head? = some f ∧ f.error c.2.1 = c.2.2) ∧
    ∀ c ∈ acceptances, c.1.compile c.2.1 = .ok ⟨c.2.2, [], c.1.kind⟩ ∧ c.1.faults c.2.1 = [] := by
  have hr : ∀ c ∈ refusals, c.1.compile c.2.1 = .error c.2.2 := by decide +kernel
  have ha : ∀ c ∈ acceptances, c.1.compile c.2.1 = .ok ⟨c.2.2, [], c.1.kind⟩ := by decide +kernel
  constructor
  · intro c hc
    obtain ⟨-, hfirst, -⟩ := compile_fails_with_first c.1 c.2.1
    exact ⟨hr c hc, (hfirst _).mp (hr c hc)⟩
  · intro c hc
    obtain ⟨hnone, -, -⟩ := compile_fails_with_first c.1 c.2.1
    exact ⟨ha c hc, hnone.mp ⟨_, ha c hc⟩⟩

end Query

end SqlBuilder.Sql
