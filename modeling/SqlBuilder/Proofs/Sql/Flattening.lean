import SqlBuilder.Proofs.Sql.Writes
/-!
Every writer of the query language writes the parts of what it is a writer of, and so a query compiles
to its numbered pieces.
-/
namespace SqlBuilder.Sql

open Writer (Writes EachWrites)

theorem Raw.fill_eq_put (d : Dialect) (r : Raw) (ms : List Raw.Mark) (vs : List Value) :
    r.fill d ms vs = Writer.put d (Raw.pieces.go r ms vs) := by
  fun_induction Raw.pieces.go r ms vs with
  | case1 => exact (Writer.put_nil d).symm
  | case2 => exact (Writer.put_fault d _).symm
  | case3 c ms vs ih =>
    have h := Writer.put_append d [.text (String.singleton c)] (Raw.pieces.go r ms vs)
    rw [Writer.put_text, List.singleton_append] at h
    rw [h, ← ih, Raw.fill]
  | case4 => exact (Writer.put_fault d _).symm
  | case5 ms v vs ih =>
    have h := Writer.put_append d [.value v] (Raw.pieces.go r ms vs)
    rw [Writer.put_value, List.singleton_append] at h
    rw [h, ← ih, Raw.fill]

variable (d : Dialect) (scopes : List Scope)

theorem Raw.write_eq_put (r : Raw) : r.write d = Writer.put d r.pieces := by
  rw [write, fill_eq_put, pieces_eq]

theorem Raw.writes (r : Raw) : Writes d scopes (r.write d) [.raw r] := by
  apply Writes.of_put
  simp [Raw.write_eq_put, Part.allPieces, Part.pieces]

theorem Part.table_writes (name : String) :
    Writes d scopes (Writer.text (tableName d name)) (Part.table name) :=
  Writes.intercalate "." (fun p => Writes.name (String.ofList p)) _

theorem Part.names_writes (columns : List String) :
    Writes d scopes (Writer.text (columnsText d columns)) (Part.names columns) :=
  Writes.intercalate ", " Writes.name columns

theorem Part.aliasing_writes (alias? : Option String) :
    Writes d scopes (Writer.text (aliasText d alias?)) (Part.aliasing alias?) := by
  cases alias?
  case none => exact Writes.empty
  case some given => exact (Writes.text " as ").append (Writes.name given)

theorem TableRef.writes (t : TableRef) : Writes d scopes (Writer.text (t.text d)) t.parts :=
  (Part.table_writes d scopes t.name).append (Part.aliasing_writes d scopes t.alias?)

theorem Operand.writes (o : Operand) : Writes d scopes (o.write d) (o.parts scopes) := by
  cases o
  case column c => exact Writes.column c
  case raw r => exact r.writes d scopes

theorem Selection.writes (s : Selection) : Writes d scopes (s.write d) (s.parts scopes) :=
  (s.operand.writes d scopes).bind (Part.aliasing_writes d scopes s.alias?)

theorem Order.writes (o : Order) : Writes d scopes (o.write d) (o.parts d scopes) := by
  cases o
  case operand o direction => exact (o.writes d scopes).bind (Writes.text _)
  case output name direction =>
    have hn : Writes d scopes (Writer.text (ident d name)) [.name name] := Writes.name name
    rw [Order.write, Order.parts, String.append_assoc]
    exact hn.append (Writes.text _)
  case raw r => exact r.writes d scopes
  case random => exact Writes.text _

theorem selectionParts_writes (whole : Bool) (table : TableRef) (selections : List Selection) :
    Writes d scopes (writeSelections d whole table selections)
      (selectionParts scopes whole table selections) := by
  unfold writeSelections selectionParts
  split
  · split
    · exact Writes.column _
    · exact Writes.text _
  · exact Writes.separated ", " (Writes.map (Selection.writes d scopes) selections)

-- A fault in front replaces all that would follow it.
theorem orderParts_writes (selections : List Selection) (order : List Order) {w : Writer}
    {ps : List Part} (h : Writes d scopes w ps) :
    Writes d scopes (match unknownOutput? selections order with
      | some name => Writer.stop (.unknownSelection name)
      | none => w) (orderParts selections order ++ ps) := by
  rw [unknownOutput?_eq, orderParts]
  cases unselected? selections order
  case none => exact h
  case some name =>
    intro draft hd
    have hf : Writes d scopes (Writer.stop (.unknownSelection name)) [.fault (.unknownSelection name)] :=
      Writes.fault _
    exact (hf.bind h) draft hd

mutual

theorem Expr.writes (d : Dialect) (scopes : List Scope) :
    (e : Expr) → Writes d scopes (e.write d) (e.parts d scopes)
  | .operand o => by
    simpa only [Expr.write, Expr.parts] using o.writes d scopes
  | .value v => by
    simpa only [Expr.write, Expr.parts] using Writes.value v
  | .subquery q => by
    have h := (q.writes d scopes).bind (Writes.text ")")
    simpa only [Expr.write, Expr.parts] using h.lead "("

theorem Expr.writes_each (d : Dialect) (scopes : List Scope) : (es : List Expr) →
    List.Forall₂ (Writes d scopes) (Expr.writers d es) (Expr.partsEach d scopes es)
  | [] => .nil
  | e :: es => .cons (e.writes d scopes) (Expr.writes_each d scopes es)

theorem Condition.writes (d : Dialect) (scopes : List Scope) :
    (c : Condition) → Writes d scopes (c.write d) (c.parts d scopes)
  | .compare left op right => by
    have h := (right.writes d scopes).lead (" " ++ op.text d ++ " ")
    simpa only [Condition.write, Condition.parts] using (left.writes d scopes).bind h
  | .isNull left negated => by
    simpa only [Condition.write, Condition.parts] using (left.writes d scopes).bind (Writes.text _)
  | .between left negated low high => by
    have h := (low.writes d scopes).bind ((high.writes d scopes).lead " and ")
    simpa only [Condition.write, Condition.parts] using (left.writes d scopes).bind (h.lead _)
  | .member left negated values => by
    have h := (Writes.separated ", " (Expr.writes_each d scopes values)).bind (Writes.text ")")
    rw [Condition.write, Condition.parts]
    split
    · exact Writes.text _
    · exact (left.writes d scopes).bind (h.lead _)
  | .memberOf left negated q => by
    have h := (q.writes d scopes).bind (Writes.text ")")
    simpa only [Condition.write, Condition.parts] using (left.writes d scopes).bind (h.lead _)
  | .exists negated q => by
    have h := (q.writes d scopes).bind (Writes.text ")")
    simpa only [Condition.write, Condition.parts] using h.lead _
  | .group clauses => by
    have h := (Writes.joined (Clause.writes_each d scopes clauses)).bind (Writes.text ")")
    simpa only [Condition.write, Condition.parts] using h.lead "("
  | .raw r => by
    simpa only [Condition.write, Condition.parts] using r.writes d scopes

theorem Clause.writes_each (d : Dialect) (scopes : List Scope) : (cs : List Clause) →
    EachWrites d scopes (Clause.writers d cs) (Clause.partsEach d scopes cs)
  | [] => .nil
  | ⟨_, condition⟩ :: rest =>
    .cons ⟨rfl, condition.writes d scopes⟩ (Clause.writes_each d scopes rest)

theorem Join.writes_all (d : Dialect) (scopes : List Scope) : (js : List Join) →
    Writes d scopes (Join.writeAll d js) (Join.partsAll d scopes js)
  | [] => Writes.nil
  | ⟨table, on⟩ :: rest => by
    have ht := (Writes.text " inner join ").append (table.writes d scopes)
    have hc := Writes.clause " on " "" (Clause.writes_each d scopes on)
    have h := (ht.bind hc).bind (Join.writes_all d scopes rest)
    rw [Join.writeAll, Join.write, Join.partsAll]
    exact h

theorem Cte.writes_each (d : Dialect) (scopes : List Scope) : (cs : List Cte) →
    List.Forall₂ (Writes d scopes) (Cte.writers d cs) (Cte.partsEach d scopes cs)
  | [] => .nil
  | ⟨name, columns, body⟩ :: rest => by
    have hn := ((Part.table_writes d scopes name).append (Writes.text "(")).append
      ((Part.names_writes d scopes columns).append (Writes.text ") as ("))
    have h := hn.bind ((body.writes d scopes).bind (Writes.text ")"))
    rw [Cte.writers, Cte.write, Cte.partsEach]
    refine .cons ?_ (Cte.writes_each d scopes rest)
    simpa only [List.append_assoc, List.cons_append, List.nil_append, String.append_assoc] using h

theorem Select.writes (d : Dialect) (outer : List Scope) :
    (q : Select) → Writes d outer (q.write d) (q.parts d outer)
  | ⟨ctes, distinct, whole, selections, table, joins, filter, groups, order, page⟩ => by
    have hc := Writes.listClause "with " " " (Cte.writes_each d outer ctes)
    let scopes := (table :: joins.map Join.table) :: outer
    have hs := selectionParts_writes d scopes whole table selections
    have ht := (Writes.text " from ").append (table.writes d scopes)
    have hj := Join.writes_all d scopes joins
    have hf := Writes.clause " where " "" (Clause.writes_each d scopes filter)
    have hg := Writes.listClause " group by " "" (Writes.map (Operand.writes d scopes) groups)
    have ho := Writes.listClause " order by " "" (Writes.map (Order.writes d scopes) order)
    have hb := (Writes.text (if distinct then "select distinct " else "select ")).bind (hs.bind (ht.bind
      (hj.bind (hf.bind (hg.bind (ho.bind (Writes.text (pageText d page))))))))
    have h := orderParts_writes d outer selections order (hc.bind hb.inScope)
    rw [Select.write, Select.parts]
    simp only [scopes, List.append_assoc, List.cons_append, List.nil_append] at h ⊢
    exact h

end

theorem writeSet_writes (a : String × Expr) :
    Writes d scopes (writeSet d a.1 a.2) (Update.setParts d scopes a) := by
  have hn : Writes d scopes (Writer.text (ident d a.1)) [.name a.1] := Writes.name a.1
  exact (hn.append (Writes.text " = ")).bind (a.2.writes d scopes)

namespace Insert

theorem cell_writes (row : Assignments) (column : String) :
    Writes d [] (writeCell d row column) (cellParts d row column) := by
  unfold writeCell cellParts
  rw [Assignments.lookup_eq_get?]
  cases row.get? column
  case none => exact Writes.text _
  case some e => exact e.writes d []

theorem row_writes (columns : List String) (row : Assignments) :
    Writes d [] (writeRow d columns row) (rowParts d columns row) := by
  have h := Writes.separated ", " (Writes.map (cell_writes d row) columns)
  exact (h.bind (Writes.text ")")).lead "("

theorem defaults_writes (rows : List Assignments) :
    Writes d [] (writeDefaults d rows) (defaultParts d rows) := by
  cases d
  case mysql => exact Writes.text _
  all_goals
    match rows with
    | [] => exact Writes.fault _
    | [_] => exact Writes.text _
    | _ :: _ :: _ => exact Writes.fault _

theorem rows_writes (q : Insert) : Writes d [] (q.writeRows d) (q.rowsParts d) := by
  unfold writeRows rowsParts
  rw [columns_eq_united]
  split
  · exact defaults_writes d q.rows
  · have hn := (Writes.text "(").append (Part.names_writes d [] (united q.rows))
    have hr := Writes.separated ", " (Writes.map (row_writes d (united q.rows)) q.rows)
    have h := (hn.append (Writes.text ") values ")).bind hr
    simpa only [List.append_assoc, List.cons_append, List.nil_append] using h

theorem verb_writes (q : Insert) : Writes d [] (q.writeVerb d) (q.verbParts d) := by
  unfold writeVerb verbParts
  split
  · exact Writes.fault _
  · exact Writes.text _

theorem target_writes (target : List String) :
    Writes d [] (Writer.text (targetText d target)) (targetParts target) := by
  cases target
  case nil => exact Writes.empty
  case cons c cs =>
    have h := (Writes.text " (").append (Part.names_writes d [] (c :: cs))
    exact h.append (Writes.text ")")

theorem set_writes (column : String) :
    Writes d [] (Writer.text (Conflict.setText d column)) (setParts d column) := by
  have hn : Writes d [] (Writer.text (ident d column)) [.name column] := Writes.name column
  have hx : Writes d [] (Writer.text (ident d "excluded")) [.name "excluded"] := Writes.name _
  cases d
  case mysql => exact ((hn.append (Writes.text _)).append hn).append (Writes.text _)
  all_goals exact (((hn.append (Writes.text _)).append hx).append (Writes.text _)).append hn

theorem conflict_writes (q : Insert) :
    Writes d [] (Writer.text (q.conflictText d)) (q.conflictParts d) := by
  have hs (sets : List String) := Writes.intercalate ", " (set_writes d) sets
  have ht (target : List String) :=
    (Writes.text " on conflict").append (target_writes d target)
  obtain ⟨ctes, mode, table, rows, ignore, conflict⟩ := q
  rcases conflict with _ | target | ⟨target, sets⟩
  case none =>
    cases d
    case postgres =>
      simp only [conflictText, conflictParts]
      split
      · exact Writes.text _
      · exact Writes.empty
    all_goals exact Writes.empty
  case some.nothing =>
    cases d
    case mysql => exact Writes.empty
    all_goals exact (ht target).append (Writes.text " do nothing")
  case some.update =>
    cases d
    case mysql => exact (Writes.text _).append (hs sets)
    all_goals
      have h := ((ht target).append (Writes.text " do update set ")).append (hs sets)
      simpa only [conflictText, conflictParts, List.append_assoc, List.cons_append, List.nil_append]
        using h

theorem writes (q : Insert) : Writes d [] (q.write d) (q.parts d) := by
  have hc := Writes.listClause "with " " " (Cte.writes_each d [] q.ctes)
  have ht := (Part.table_writes d [] q.table).append (Writes.text " ")
  have h := hc.bind ((q.verb_writes d).bind (ht.bind ((q.rows_writes d).bind (q.conflict_writes d))))
  unfold Insert.write Insert.parts
  split
  · exact Writes.fault _
  · simpa only [List.append_assoc, List.cons_append, List.nil_append] using h

end Insert

theorem Update.writes (q : Update) : Writes d [] (q.write d) (q.parts d) := by
  have hc := Writes.listClause "with " " " (Cte.writes_each d [] q.ctes)
  have ht := ((Writes.text "update ").append (q.table.writes d [[q.table]])).append
    (Writes.text " set ")
  have hs := Writes.separated ", " (Writes.map (writeSet_writes d [[q.table]]) q.sets)
  have hf := Writes.clause " where " "" (Clause.writes_each d [[q.table]] q.filter)
  have h := hc.bind (ht.bind (hs.bind hf)).inScope
  unfold Update.write Update.parts
  split
  · exact Writes.fault _
  · simpa only [List.append_assoc, List.cons_append, List.nil_append] using h

theorem Delete.writes (q : Delete) : Writes d [] (q.write d) (q.parts d) := by
  have hc := Writes.listClause "with " " " (Cte.writes_each d [] q.ctes)
  have ht := (Writes.text "delete from ").append (q.table.writes d [[q.table]])
  have hf := Writes.clause " where " "" (Clause.writes_each d [[q.table]] q.filter)
  exact hc.bind (ht.bind hf).inScope

namespace Query

theorem writes (q : Query) : Writes d [] (q.write d) (q.parts d) := by
  cases q
  case select q => exact q.writes d []
  case insert q => exact q.writes d
  case update q => exact q.writes d
  case delete q => exact q.writes d

-- Compiling is numbering the pieces of a query, unless there is a fault among them.
theorem compile_eq (q : Query) :
    q.compile d = match Piece.firstFault? (q.pieces d) with
      | none => .ok ⟨Piece.numbered d 1 (q.pieces d), Piece.values (q.pieces d), q.kind⟩
      | some e => .error e := by
  have h : q.write d {} = Writer.put d (q.pieces d) {} := q.writes d {} rfl
  rw [compile, h, Writer.put]
  cases Piece.firstFault? (q.pieces d) <;> simp [Draft.extend, Draft.halt]

theorem eq_of_compile {d : Dialect} {q : Query} {s : Statement} (h : q.compile d = .ok s) :
    Piece.firstFault? (q.pieces d) = none ∧
      s = ⟨Piece.numbered d 1 (q.pieces d), Piece.values (q.pieces d), q.kind⟩ := by
  rw [compile_eq] at h
  cases hf : Piece.firstFault? (q.pieces d)
  case some e => simp [hf] at h
  case none =>
    simp only [hf, Except.ok.injEq] at h
    exact ⟨rfl, h.symm⟩

-- The parameters of a statement are the values of its query, and each stands in the text where its
-- placeholder does: the one with index `i` behind `i` others, under the number `i + 1`.
theorem compile_numbers_values {d : Dialect} {q : Query} {s : Statement} (h : q.compile d = .ok s) :
    s.sql = Piece.numbered d 1 (q.pieces d) ∧
    s.params = Piece.values (q.pieces d) ∧
    s.kind = q.kind ∧
    (∀ e, .fault e ∉ q.pieces d) ∧
    ∀ i v, s.params[i]? = some v → ∃ before after,
      q.pieces d = before ++ .value v :: after ∧
      (Piece.values before).length = i ∧
      s.sql = Piece.numbered d 1 before ++ Piece.mark d (i + 1) ++ Piece.numbered d (i + 2) after := by
  rw [compile_eq] at h
  cases hf : Piece.firstFault? (q.pieces d)
  case some e => simp [hf] at h
  case none =>
    simp only [hf, Except.ok.injEq] at h
    subst h
    refine ⟨rfl, rfl, rfl, Piece.firstFault?_eq_none_iff.mp hf, ?_⟩
    intro i v hv
    have ⟨before, after, hp, hi⟩ := Piece.split_at_value hv
    refine ⟨before, after, hp, hi, ?_⟩
    have hn : 1 + i = i + 1 := Nat.add_comm 1 i
    simp [hp, Piece.numbered_append, Piece.numbered, hi, hn, String.append_assoc]

-- A query with values in each of its clauses, in a common table expression and in a subquery of a group, and with
-- question marks that stand for none. The empty list writes none.
def crowded : Query := .select {
  ctes := [⟨"names", ["name"], namesOf (.string "Rex")⟩]
  distinct := false
  whole := true
  selections := []
  table := ⟨"person", some "p"⟩
  joins := [⟨⟨"pet", none⟩, [⟨.and, .raw ⟨"pet.owner_id = p.id and tag ?| ? and note != '?'", [.i32 1]⟩⟩]⟩]
  filter := [
    ⟨.and, .member (.column ⟨"person", "age"⟩) false []⟩,
    ⟨.or, .group [
      ⟨.and, .memberOf (.column ⟨"person", "first_name"⟩) true (namesOf .null)⟩,
      ⟨.and, .between (.column ⟨"person", "age"⟩) false (.value (.i32 18)) (.value (.i32 30))⟩]⟩]
  groups := [.column ⟨"person", "id"⟩, .raw ⟨"p.age % ?", [.i16 2]⟩]
  order := [.operand (.raw ⟨"p.age * ?", [.i16 3]⟩) .desc, .random]
  page := { limit := some 5 } }
where
  namesOf (v : Value) : Select := {
    ctes := []
    distinct := false
    whole := false
    selections := [⟨.column ⟨"pet", "name"⟩, none⟩]
    table := ⟨"pet", none⟩
    joins := []
    filter := [⟨.and, .compare (.column ⟨"pet", "name"⟩) .notEq (.value v)⟩]
    groups := []
    order := []
    page := {} }

def crowdedStatement : Statement where
  sql := "with \"names\"(\"name\") as (select \"name\" from \"pet\" where \"name\" != $1) select \"p\".* from \"person\" as \"p\" inner join \"pet\" on pet.owner_id = p.id and tag ?| $2 and note != '?' where 1 = 0 or (\"p\".\"first_name\" not in (select \"name\" from \"pet\" where \"name\" != $3) and \"p\".\"age\" between $4 and $5) group by \"p\".\"id\", p.age % $6 order by p.age * $7 desc, random() limit 5"
  params := [.string "Rex", .i32 1, .null, .i32 18, .i32 30, .i16 2, .i16 3]
  kind := .select

-- Rows of different columns, one without any, with values in a common table expression, raw text and a subquery.
-- The last row sets its columns in another order than they are written in.
def ragged : Query := .insert {
  ctes := [⟨"names", ["name"], crowded.namesOf (.string "Rex")⟩]
  mode := .insert
  table := "book"
  rows := [
    [("title", .operand (.raw ⟨"upper(?)", [.string "emma"]⟩)), ("id", .value (.i32 7))],
    [],
    [("pages", .subquery (crowded.namesOf .null)), ("id", .value (.i32 8))]]
  ignore := false
  conflict := some (.update ["id"] ["title"]) }

def raggedStatement : Statement where
  sql := "with \"names\"(\"name\") as (select \"name\" from \"pet\" where \"name\" != ?1) insert into \"book\" (\"title\", \"id\", \"pages\") values (upper(?2), ?3, null), (null, null, null), (null, ?4, (select \"name\" from \"pet\" where \"name\" != ?5)) on conflict (\"id\") do update set \"title\" = \"excluded\".\"title\""
  params := [.string "Rex", .string "emma", .i32 7, .i32 8, .null]
  kind := .insert

-- Values in a common table expression, in what is set and in the conditions.
def adopting : Query := .update {
  ctes := [⟨"names", ["name"], crowded.namesOf (.string "Rex")⟩]
  table := ⟨"pet", none⟩
  sets := [("name", .operand (.raw ⟨"concat(?, '?')", [.string "Max"]⟩)), ("owner_id", .value (.i32 9))]
  filter := [
    ⟨.and, .isNull (.column ⟨"pet", "tag"⟩) false⟩,
    ⟨.or, .compare (.column ⟨"pet", "id"⟩) .eq (.value (.i32 1))⟩] }

def adoptingStatement : Statement where
  sql := "with `names`(`name`) as (select `name` from `pet` where `name` != ?) update `pet` set `name` = concat(?, '?'), `owner_id` = ? where `tag` is null or `id` = ?"
  params := [.string "Rex", .string "Max", .i32 9, .i32 1]
  kind := .update

theorem crowded_numbers_values :
    (crowded.compile .postgres = .ok crowdedStatement ∧
      crowdedStatement.sql = Piece.numbered .postgres 1 (crowded.pieces .postgres) ∧
      crowdedStatement.params = Piece.values (crowded.pieces .postgres) ∧
      ∃ before after, crowded.pieces .postgres = before ++ .value .null :: after ∧
        (Piece.values before).length = 2 ∧
        crowdedStatement.sql =
          Piece.numbered .postgres 1 before ++ "$3" ++ Piece.numbered .postgres 4 after) ∧
    (ragged.compile .sqlite = .ok raggedStatement ∧
      raggedStatement.sql = Piece.numbered .sqlite 1 (ragged.pieces .sqlite) ∧
      raggedStatement.params = Piece.values (ragged.pieces .sqlite) ∧
      ∃ before after, ragged.pieces .sqlite = before ++ .value (.i32 8) :: after ∧
        (Piece.values before).length = 3 ∧
        raggedStatement.sql = Piece.numbered .sqlite 1 before ++ "?4" ++ Piece.numbered .sqlite 5 after) ∧
    adopting.compile .mysql = .ok adoptingStatement ∧
    adoptingStatement.sql = Piece.numbered .mysql 1 (adopting.pieces .mysql) ∧
    adoptingStatement.params = Piece.values (adopting.pieces .mysql) := by
  have hc : crowded.compile .postgres = .ok crowdedStatement := by decide +kernel
  have hr : ragged.compile .sqlite = .ok raggedStatement := by decide +kernel
  have hn : adopting.compile .mysql = .ok adoptingStatement := by decide +kernel
  have ⟨hcs, hcp, _, _, hci⟩ := compile_numbers_values hc
  have ⟨hrs, hrp, _, _, hri⟩ := compile_numbers_values hr
  have ⟨hns, hnp, _⟩ := compile_numbers_values hn
  exact ⟨⟨hc, hcs, hcp, hci 2 .null rfl⟩, ⟨hr, hrs, hrp, hri 3 (.i32 8) rfl⟩, hn, hns, hnp⟩

end Query

end SqlBuilder.Sql
