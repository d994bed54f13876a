import SqlBuilder.Proofs.Build.Assignments
import SqlBuilder.Proofs.Sql.Front
/-!
The rows of an insert under its columns. Each row is written as one tuple with a cell for each column of the
statement, and a cell holds what its own row set for its own column, however the rows differ in their columns
and in the order in which they set them.
-/
namespace SqlBuilder.Sql

-- What is written in one place: its text and the values bound in it.
structure Cell where
  text : String
  values : List Value

namespace Cell

-- Items one after the other, each made under the number of values that those before it leave.
def running {α β : Type} (make : Nat → α → β) (bound : β → List Value) (n : Nat) : List α → List β
  | [] => []
  | x :: xs => make n x :: running make bound (n + (bound (make n x)).length) xs

section Running

variable {α β : Type} {make : Nat → α → β} {bound : β → List Value}

@[simp] theorem length_running (n : Nat) (xs : List α) : (running make bound n xs).length = xs.length := by
  induction xs generalizing n with
  | nil => rfl
  | cons x xs ih => rw [running, List.length_cons, ih, List.length_cons]

theorem getElem?_running (n i : Nat) (xs : List α) : (running make bound n xs)[i]? =
    xs[i]?.map (make (n + (((running make bound n xs).take i).flatMap bound).length)) := by
  induction xs generalizing n i with
  | nil => rfl
  | cons x xs ih =>
    cases i with
    | zero => rfl
    | succ i =>
      rw [running, List.getElem?_cons_succ, ih, List.getElem?_cons_succ, List.take_succ_cons, List.flatMap_cons,
        List.length_append, Nat.add_assoc]

end Running

variable {d : Dialect}

-- What parts write, `n` numbers being given out before them.
def ofParts (d : Dialect) (n : Nat) (ps : List Part) : Cell where
  text := Piece.numbered d (n + 1) (Part.allPieces d ps)
  values := Piece.values (Part.allPieces d ps)

theorem ofParts_text (n : Nat) (s : String) : ofParts d n [.text s] = ⟨s, []⟩ :=
  congrArg (mk · []) String.append_empty

theorem ofParts_between {scopes : List Scope} {before after : List Part} {s t : String}
    (hs : Writer.Writes d scopes (.text s) before) (ht : Writer.Writes d scopes (.text t) after) (n : Nat)
    (ps : List Part) : ofParts d n (before ++ ps ++ after) =
      ⟨s ++ (ofParts d n ps).text ++ t, (ofParts d n ps).values⟩ := by
  obtain ⟨hsv, hsn⟩ := hs.text_eq
  obtain ⟨htv, htn⟩ := ht.text_eq
  refine congrArg₂ mk ?text ?values
  case text =>
    rw [List.append_assoc, Part.numbered_allPieces_append, hsn, hsv, Part.numbered_allPieces_append, htn,
      String.append_assoc]
    rfl
  case values =>
    rw [List.append_assoc, Part.values_allPieces_append, hsv, Part.values_allPieces_append, htv, List.append_nil]
    rfl

-- The cells of lists of parts that follow each other.
abbrev ofEach (d : Dialect) : Nat → List (List Part) → List Cell := running (ofParts d) values

theorem ofEach_cons (n : Nat) (ps : List Part) (pss : List (List Part)) :
    ofEach d n (ps :: pss) = ofParts d n ps :: ofEach d (n + (ofParts d n ps).values.length) pss := rfl

theorem texts_eq (n : Nat) (pss : List (List Part)) : Part.texts d n pss = (ofEach d n pss).map text := by
  induction pss generalizing n with
  | nil => rfl
  | cons ps pss ih =>
    rw [Part.texts, ih]
    rfl

theorem values_separated (separator : String) (n : Nat) : (pss : List (List Part)) →
    Piece.values (Part.allPieces d (Part.separated separator pss)) = (ofEach d n pss).flatMap values
  | [] => rfl
  | [ps] => by simp [Part.separated, Part.joined, Part.eachLed, running, ofParts]
  | ps :: qs :: pss => by
    have hs : Part.separated separator (ps :: qs :: pss) =
        ps ++ ([.text separator] ++ Part.separated separator (qs :: pss)) := rfl
    have ht : Piece.values (Part.allPieces d [.text separator]) = [] := rfl
    rw [hs, Part.values_allPieces_append, Part.values_allPieces_append, ht, List.nil_append,
      values_separated separator _ (qs :: pss)]
    rfl

theorem ofParts_separated (separator : String) (n : Nat) (pss : List (List Part)) :
    ofParts d n (Part.separated separator pss) =
      ⟨separator.intercalate ((ofEach d n pss).map text), (ofEach d n pss).flatMap values⟩ := by
  rw [ofParts, Part.numbered_separated, texts_eq, values_separated separator n]

-- The text of a row of cells.
def tupleText (cells : List Cell) : String := "(" ++ ", ".intercalate (cells.map text) ++ ")"

-- The values bound in rows of cells, row by row.
def bound (tuples : List (List Cell)) : List Value := tuples.flatMap (·.flatMap values)

-- The cells of a row under columns, and those of rows.
def tuple (d : Dialect) (columns : List String) (n : Nat) (row : Assignments) : List Cell :=
  ofEach d n (columns.map (Insert.cellParts d row))

def tuples (d : Dialect) (columns : List String) : Nat → List Assignments → List (List Cell) :=
  running (tuple d columns) (·.flatMap values)

theorem length_bound_append {tuples : List (List Cell)} {cells : List Cell} :
    (bound (tuples ++ [cells])).length = (bound tuples).length + (cells.flatMap values).length := by
  rw [bound, List.flatMap_append, List.length_append, List.flatMap_singleton, ← bound]

variable {columns : List String}

theorem getElem?_tuple (n j : Nat) (row : Assignments) : (tuple d columns n row)[j]? =
    columns[j]?.map fun column => ofParts d (n + (((tuple d columns n row).take j).flatMap values).length)
      (Insert.cellParts d row column) := by
  rw [tuple, getElem?_running, List.getElem?_map, Option.map_map]
  rfl

theorem getElem?_tuples (n i : Nat) (rows : List Assignments) : (tuples d columns n rows)[i]? =
    rows[i]?.map (tuple d columns (n + (bound ((tuples d columns n rows).take i)).length)) :=
  getElem?_running n i rows

theorem ofParts_rowParts (n : Nat) (row : Assignments) : ofParts d n (Insert.rowParts d columns row) =
    ⟨tupleText (tuple d columns n row), (tuple d columns n row).flatMap values⟩ := by
  have hopen : Writer.Writes d [] (.text "(") [.text "("] := .text "("
  have h := ofParts_between hopen (.text ")") n (Part.separated ", " (columns.map (Insert.cellParts d row)))
  rwa [ofParts_separated] at h

theorem ofEach_rowParts (n : Nat) (rows : List Assignments) :
    ofEach d n (rows.map (Insert.rowParts d columns)) =
      (tuples d columns n rows).map fun cells => ⟨tupleText cells, cells.flatMap values⟩ := by
  induction rows generalizing n with
  | nil => rfl
  | cons row rows ih =>
    rw [List.map_cons, ofEach_cons, ofParts_rowParts, ih]
    rfl

end Cell

namespace Insert

variable {d : Dialect} {q : Insert}

theorem writeVerb_eq (h : q.verbFaults d = []) : q.writeVerb d = .text (q.verb d) := by
  unfold writeVerb
  unfold verbFaults at h
  cases d <;> simp_all [Dialect.hasReplace]

-- What an insert writes around its rows.
theorem ofParts_behind (hr : q.rows ≠ []) (hv : q.verbFaults d = []) (n : Nat) :
    Cell.ofParts d n ((Query.insert q).withoutCtes.parts d) =
      ⟨q.verb d ++ tableName d q.table ++ " " ++ (Cell.ofParts d n (q.rowsParts d)).text ++ q.conflictText d,
        (Cell.ofParts d n (q.rowsParts d)).values⟩ := by
  have hverb : Writer.Writes d [] (.text (q.verb d)) (q.verbParts d) := writeVerb_eq hv ▸ verb_writes d q
  have hfront := (hverb.append (Part.table_writes d [] q.table)).append (.text " ")
  have hback : Writer.Writes d [] (.text (q.conflictText d)) (q.conflictParts d) := conflict_writes d q
  have hparts : (Query.insert q).withoutCtes.parts d =
      q.verbParts d ++ Part.table q.table ++ [.text " "] ++ q.rowsParts d ++ q.conflictParts d := by
    have h : (Query.insert q).withoutCtes.parts d = if q.rows.isEmpty then [.fault .emptyInsert] else
        q.verbParts d ++ Part.table q.table ++ .text " " :: (q.rowsParts d ++ q.conflictParts d) := rfl
    simpa [hr] using h
  rw [hparts, Cell.ofParts_between hfront hback]

theorem ofParts_rowsParts (h : united q.rows ≠ []) (n : Nat) : Cell.ofParts d n (q.rowsParts d) =
    ⟨"(" ++ columnsText d (united q.rows) ++ ") values " ++
        ", ".intercalate ((Cell.tuples d (united q.rows) n q.rows).map Cell.tupleText),
      Cell.bound (Cell.tuples d (united q.rows) n q.rows)⟩ := by
  have hnames :=
    ((Writer.Writes.text "(").append (Part.names_writes d [] (united q.rows))).append (.text ") values ")
  have hrows : q.rowsParts d = [.text "("] ++ Part.names (united q.rows) ++ [.text ") values "] ++
      Part.separated ", " (q.rows.map (Insert.rowParts d (united q.rows))) ++ [] := by
    simp [rowsParts, h]
  rw [hrows, Cell.ofParts_between hnames .empty, Cell.ofParts_separated, Cell.ofEach_rowParts]
  simp [List.flatMap_map, Cell.bound, Function.comp_def]

theorem defaultParts_eq {rows : List Assignments} (h : d = .mysql ∨ rows.length = 1) :
    defaultParts d rows = [.text (if d = .mysql then
      "() values " ++ ", ".intercalate (List.replicate rows.length "()") else "default values")] := by
  cases d with
  | mysql => rw [defaultParts, List.map_const', if_pos rfl]
  | postgres | sqlite =>
    obtain ⟨row, rfl⟩ := List.length_eq_one_iff.mp (h.resolve_left (by decide))
    rfl

end Insert

-- What holds in the cell of a column when a row is set by calls and `n` numbers are given out before the cell:
-- what the last call on the column has set, as it is written in a statement of its own, or the filler.
inductive Cell.Holds (d : Dialect) (n : Nat) (sets : List (String × Expr)) (column : String) : Cell → Prop
  | set {earlier later : List (String × Expr)} {e : Expr} {cell : Cell}
    (last : sets = earlier ++ (column, e) :: later ∧ column ∉ later.map Prod.fst)
    (written : e.write d { placeholders := n } =
      .ok () { sql := cell.text, params := cell.values, placeholders := n + cell.values.length }) :
    Holds d n sets column cell
  | unset (h : column ∉ sets.map Prod.fst) : Holds d n sets column ⟨d.filler, []⟩

-- Whether a statement inserts rows, each given by the calls that set it.
structure Insert.Tabled (d : Dialect) (q : Insert) (rows : List (List (String × Expr))) (columns : List String)
    (bodies : List Statement) (tuples : List (List Cell)) (s : Statement) : Prop where
  each : Cte.Bodies d q.ctes bodies
  union : columns = (rows.flatten.map Prod.fst).eraseDups
  count : tuples.length = rows.length
  width : ∀ cells ∈ tuples, cells.length = columns.length
  -- the numbers go on from one cell to the next and from one row to the next
  holds : ∀ (i j : Nat) (sets : List (String × Expr)) (column : String) (cells : List Cell) (cell : Cell),
    rows[i]? = some sets → columns[j]? = some column → tuples[i]? = some cells → cells[j]? = some cell →
      cell.Holds d ((bodies.flatMap Statement.params).length +
        (Cell.bound (tuples.take i ++ [cells.take j])).length) sets column
  placed : ∀ sets ∈ rows, ∀ set ∈ sets, ∃! j : Nat, columns[j]? = some set.1
  sql : s.sql = Cte.front d q.ctes bodies ++ q.verb d ++ tableName d q.table ++ " (" ++ columnsText d columns ++
    ") values " ++ ", ".intercalate (tuples.map Cell.tupleText) ++ q.conflictText d
  params : s.params = bodies.flatMap Statement.params ++ Cell.bound tuples

-- Whether rows without any column are inserted as far as the dialect has a form for them.
structure Insert.Defaulted (d : Dialect) (q : Insert) (count : Nat) : Prop where
  accepted : (∃ s, (Query.insert q).compile d = .ok s) ↔
    (∃ bodies, Cte.Bodies d q.ctes bodies) ∧ (q.mode = .replace → d.hasReplace) ∧ (d = .mysql ∨ count = 1)
  refused : (∃ bodies, Cte.Bodies d q.ctes bodies) → (q.mode = .replace → d.hasReplace) → d ≠ .mysql →
    count ≠ 1 → (Query.insert q).compile d = .error (.unsupported .severalDefaultRows d)
  written : ∀ s, (Query.insert q).compile d = .ok s → ∃ bodies, Cte.Bodies d q.ctes bodies ∧
    s.sql = Cte.front d q.ctes bodies ++ q.verb d ++ tableName d q.table ++ " " ++
      (if d = .mysql then "() values " ++ ", ".intercalate (List.replicate count "()") else "default values") ++
      q.conflictText d ∧
    s.params = bodies.flatMap Statement.params

theorem Cte.flawsAll_eq_nil_iff {d : Dialect} {cs : List Cte} :
    flawsAll cs = [] ↔ ∃ bodies, Bodies d cs bodies := by
  refine ⟨exists_bodies, ?_⟩
  rintro ⟨bodies, h⟩
  induction h with
  | nil => rfl
  | @cons c b cs bodies hb _ ih =>
    obtain ⟨name, columns, body⟩ := c
    have hf : (Query.select body).faults d = [] := Query.exists_compile_eq_ok_iff.mp ⟨b, hb.compiled⟩
    exact List.append_eq_nil_iff.mpr ⟨List.map_eq_nil_iff.mp hf, ih⟩

namespace Assignments

theorem setAll_flatten (as : Assignments) (rows : List (List (String × Expr))) :
    as.setAll (rows.map Build.assignments).flatten = as.setAll rows.flatten := by
  induction rows generalizing as with
  | nil => rfl
  | cons row rows ih =>
    rw [List.map_cons, List.flatten_cons, setAll_append, Build.setAll_assignments, ih, List.flatten_cons,
      setAll_append]

end Assignments

-- The columns of a statement are those that setting all of its rows one after the other would leave.
theorem Insert.united_of_rows {q : Insert} {rows : List (List (String × Expr))}
    (h : q.rows = rows.map Build.assignments) : united q.rows = (Build.assignments rows.flatten).columns := by
  rw [h, united, ← Build.columns_assignments]
  exact congrArg Assignments.columns (Assignments.setAll_flatten [] rows)

namespace Insert

variable {d : Dialect} {q : Insert} {s : Statement}

theorem faults_eq_nil_iff : q.faults d = [] ↔
    q.rows ≠ [] ∧ Cte.flawsAll q.ctes = [] ∧ q.verbFaults d = [] ∧ q.rowsFaults d = [] := by
  unfold faults
  split
  case isTrue h => simp_all
  case isFalse h => simp_all

theorem faults_of_compile (h : (Query.insert q).compile d = .ok s) : q.faults d = [] :=
  Query.exists_compile_eq_ok_iff.mp ⟨s, h⟩

theorem verbFaults_eq_nil_iff : q.verbFaults d = [] ↔ (q.mode = .replace → d.hasReplace) := by
  unfold verbFaults
  cases d <;> simp [Dialect.hasReplace]

-- What a statement has around its rows, which come behind the values of the common table expressions.
theorem between_of_compile (h : (Query.insert q).compile d = .ok s) : ∃ bodies, Cte.Bodies d q.ctes bodies ∧
    s.sql = Cte.front d q.ctes bodies ++ q.verb d ++ tableName d q.table ++ " " ++
      (Cell.ofParts d (bodies.flatMap Statement.params).length (q.rowsParts d)).text ++ q.conflictText d ∧
    s.params = bodies.flatMap Statement.params ++
      (Cell.ofParts d (bodies.flatMap Statement.params).length (q.rowsParts d)).values := by
  obtain ⟨hr, -, hv, -⟩ := faults_eq_nil_iff.mp (faults_of_compile h)
  obtain ⟨bodies, own, hfront⟩ := Query.exists_fronted h
  have hbehind := ofParts_behind hr hv (bodies.flatMap Statement.params).length
  refine ⟨bodies, hfront.each, ?sql, ?params⟩
  case sql =>
    have ht : (Query.insert q).withoutCtes.textAfter d _ = _ := congrArg Cell.text hbehind
    rw [hfront.sql, ht]
    simp only [String.append_assoc]
    rfl
  case params =>
    rw [hfront.params, (Query.eq_of_compile hfront.behind.compiled).2]
    exact congrArg (_ ++ ·) (congrArg Cell.values hbehind)

end Insert

end SqlBuilder.Sql

namespace SqlBuilder.Build

open Sql

variable {d : Dialect} {sets : List (String × Expr)} {column : String}

theorem exists_last_of_lastValue? {e : Expr} (h : lastValue? sets column = some e) :
    ∃ earlier later, sets = earlier ++ (column, e) :: later ∧ column ∉ later.map Prod.fst := by
  obtain ⟨⟨c, f⟩, hf, rfl⟩ := Option.map_eq_some_iff.mp h
  obtain ⟨hc, later, earlier, hs, hl⟩ := List.find?_eq_some_iff_append.mp hf
  obtain rfl : c = column := by simpa using hc
  refine ⟨earlier.reverse, later.reverse, ?_, ?_⟩
  · rw [← List.reverse_reverse sets, hs]
    simp
  · rintro hm
    obtain ⟨a, ha, hac⟩ := List.mem_map.mp hm
    have := hl a (List.mem_reverse.mp ha)
    simp [hac] at this

theorem notMem_of_lastValue? (h : lastValue? sets column = none) : column ∉ sets.map Prod.fst := by
  intro hm
  obtain ⟨a, ha, hac⟩ := List.mem_map.mp hm
  have hn := List.find?_eq_none.mp (Option.map_eq_none_iff.mp h) a (List.mem_reverse.mpr ha)
  simp [hac] at hn

theorem holds_cellParts (h : ((List.lookup column (assignments sets)).map Expr.flaws).getD [] = []) (n : Nat) :
    (Cell.ofParts d n (Insert.cellParts d (assignments sets) column)).Holds d n sets column := by
  unfold Insert.cellParts
  rw [Assignments.lookup_eq_get?, get?_assignments] at h ⊢
  cases hl : lastValue? sets column with
  | none => exact Cell.ofParts_text n d.filler ▸ .unset (notMem_of_lastValue? hl)
  | some e =>
    obtain ⟨earlier, later, hs⟩ := exists_last_of_lastValue? hl
    have hf : Piece.firstFault? (Part.allPieces d (e.parts d [])) = none := by
      rw [hl] at h
      have he : e.flaws = [] := h
      rw [Part.firstFault?_allPieces, e.errors_parts, he]
      rfl
    refine .set hs ?_
    rw [e.writes d [] _ rfl, Writer.put, hf]
    simp [Draft.extend, Cell.ofParts]

namespace InsertCall

-- The rows that calls give, in their order, each as the calls that set its columns.
def given : List InsertCall → List (List (String × Expr))
  | [] => []
  | values rows :: cs => rows ++ given cs
  | ignore :: cs | onConflict _ :: cs => given cs

theorem rows_foldl (q : Insert) (cs : List InsertCall) :
    (cs.foldl apply q).rows = q.rows ++ (given cs).map assignments := by
  induction cs generalizing q with
  | nil => simp [given]
  | cons c cs ih => cases c <;> simp [ih, apply, given]

end InsertCall

variable {q : Insert} {rows : List (List (String × Expr))} {s : Statement}

theorem tabled_of_compile (hq : q.rows = rows.map assignments) (hr : rows.flatten ≠ [])
    (h : (Query.insert q).compile d = .ok s) :
    ∃ columns bodies tuples, q.Tabled d rows columns bodies tuples s := by
  have hcolumns : Insert.united q.rows = (rows.flatten.map Prod.fst).eraseDups := by
    rw [Insert.united_of_rows hq, columns_assignments]
  have hmem {sets : List (String × Expr)} (hsets : sets ∈ rows) {set : String × Expr} (hset : set ∈ sets) :
      set.1 ∈ Insert.united q.rows := by
    rw [hcolumns, List.mem_eraseDups]
    exact List.mem_map_of_mem (List.mem_flatten_of_mem hsets hset)
  have hne : Insert.united q.rows ≠ [] := by
    obtain ⟨set, hset⟩ := List.exists_mem_of_ne_nil _ hr
    obtain ⟨sets, hsets, hset⟩ := List.mem_flatten.mp hset
    exact List.ne_nil_of_mem (hmem hsets hset)
  obtain ⟨-, -, -, hfaults⟩ := Insert.faults_eq_nil_iff.mp (Insert.faults_of_compile h)
  obtain ⟨bodies, hbodies, hsql, hparams⟩ := Insert.between_of_compile h
  rw [Insert.ofParts_rowsParts hne] at hsql hparams
  refine ⟨Insert.united q.rows, bodies,
    Cell.tuples d (Insert.united q.rows) (bodies.flatMap Statement.params).length q.rows,
    hbodies, hcolumns, ?count, ?width, ?holds, ?placed, ?sql, hparams⟩
  case count => rw [Cell.tuples, Cell.length_running, hq, List.length_map]
  case width =>
    intro cells hc
    obtain ⟨i, hi⟩ := List.mem_iff_getElem?.mp hc
    rw [Cell.getElem?_tuples] at hi
    obtain ⟨row, -, rfl⟩ := Option.map_eq_some_iff.mp hi
    rw [Cell.tuple, Cell.length_running, List.length_map]
  case holds =>
    intro i j sets column cells cell hsets hcolumn hcells hcell
    have hrow : q.rows[i]? = some (assignments sets) := by rw [hq, List.getElem?_map, hsets]; rfl
    have hflaws : ((List.lookup column (assignments sets)).map Expr.flaws).getD [] = [] := by
      simp only [Insert.rowsFaults, List.isEmpty_iff, hne, if_false, List.map_eq_nil_iff, Insert.cellFlaws,
        List.flatMap_eq_nil_iff] at hfaults
      exact hfaults _ (List.mem_of_getElem? hrow) _ (List.mem_of_getElem? hcolumn)
    rw [Cell.getElem?_tuples, hrow] at hcells
    obtain rfl := Option.some.inj hcells
    rw [Cell.getElem?_tuple, hcolumn] at hcell
    obtain rfl := Option.some.inj hcell
    rw [Cell.length_bound_append, ← Nat.add_assoc]
    exact holds_cellParts hflaws _
  case placed =>
    intro sets hsets set hset
    obtain ⟨j, hj⟩ := List.mem_iff_getElem?.mp (hmem hsets hset)
    have hn : (Insert.united q.rows).Nodup := Insert.united_of_rows hq ▸ nodup_columns_assignments
    refine ⟨j, hj, fun k hk => ?_⟩
    have hlt : k < (Insert.united q.rows).length := (List.getElem?_eq_some_iff.mp hk).1
    exact (List.getElem?_inj hlt hn).mp (hk.trans hj.symm)
  case sql =>
    have hs : " (" = " " ++ "(" := rfl
    simp only [hsql, hs, String.append_assoc]

theorem defaulted (hq : q.rows = rows.map assignments) (hr : rows ≠ []) (hn : rows.flatten = []) :
    q.Defaulted d rows.length := by
  have hlength : q.rows.length = rows.length := by rw [hq, List.length_map]
  have hpos : 0 < q.rows.length := hlength ▸ List.length_pos_iff.mpr hr
  have hrows : q.rows ≠ [] := List.length_pos_iff.mp hpos
  have hcolumns : (Insert.united q.rows).isEmpty := by rw [Insert.united_of_rows hq, hn]; rfl
  have hfaults : q.rowsFaults d = if 1 < rows.length ∧ d ≠ .mysql then [.severalDefaultRows] else [] := by
    rw [Insert.rowsFaults, if_pos hcolumns, hlength]
  have hclear : q.rowsFaults d = [] ↔ d = .mysql ∨ rows.length = 1 := by
    rw [hfaults]
    grind
  refine ⟨?accepted, ?refused, ?written⟩
  case accepted =>
    rw [Query.exists_compile_eq_ok_iff, Query.faults, Insert.faults_eq_nil_iff, Cte.flawsAll_eq_nil_iff,
      Insert.verbFaults_eq_nil_iff, hclear]
    exact and_iff_right hrows
  case refused =>
    intro hc hv hd hl
    have hf : q.faults d = [.severalDefaultRows] := by
      rw [Insert.faults, if_neg (by simpa using hrows), Cte.flawsAll_eq_nil_iff.mpr hc,
        Insert.verbFaults_eq_nil_iff.mpr hv, hfaults, if_pos ⟨by omega, hd⟩]
      rfl
    exact Query.compile_eq_error_iff.mpr ⟨_, by rw [Query.faults, hf]; rfl, rfl⟩
  case written =>
    intro s h
    obtain ⟨-, -, -, hf⟩ := Insert.faults_eq_nil_iff.mp (Insert.faults_of_compile h)
    obtain ⟨bodies, hbodies, hsql, hparams⟩ := Insert.between_of_compile h
    have hparts : q.rowsParts d = _ :=
      (if_pos hcolumns).trans (Insert.defaultParts_eq (hclear.mp hf |>.imp_right hlength.trans))
    rw [hparts, Cell.ofParts_text] at hsql hparams
    rw [List.append_nil] at hparams
    refine ⟨bodies, hbodies, ?_, hparams⟩
    rw [hsql, hlength]

namespace InsertCall

-- The rows that the calls on an insert give stand under the columns that they set. Rows that set none are left
-- to the dialect, which may have a form for one of them only.
theorem rows_under_columns (creator : Creator) (mode : InsertMode) (table : String) (calls : List InsertCall)
    (d : Dialect) (h : given calls ≠ []) :
    ((given calls).flatten ≠ [] →
      ∀ s, (Plan.insert (creator.insert mode table) calls).query.compile d = .ok s → ∃ columns bodies tuples,
        (calls.foldl apply (creator.insert mode table)).Tabled d (given calls) columns bodies tuples s) ∧
    ((given calls).flatten = [] →
      (calls.foldl apply (creator.insert mode table)).Defaulted d (given calls).length) := by
  have hq : (calls.foldl apply (creator.insert mode table)).rows = (given calls).map assignments :=
    rows_foldl _ calls
  exact ⟨fun hr s hs => tabled_of_compile hq hr hs, defaulted hq h⟩

-- Rows of different columns, one of them without any, and a column that is set twice.
def ragged : List InsertCall := [
  .values [
    [
      ("title", .value (.string "Emma")),
      ("id", .value (.i32 7)),
      ("title", .operand (.raw ⟨"upper(?)", [.string "emma"]⟩))],
    []],
  .ignore,
  .values [[("pages", .value (.i32 3)), ("id", .value (.i32 8))]]]

def read : Creator := ({} : Creator).declare "names" ["name"]
  (SelectCall.applyAll (({} : Creator).select ⟨"pet", none⟩ false) [
    .select [⟨.raw ⟨"?", [.string "Rex"]⟩, none⟩]])

def raggedStatement : Statement where
  sql := "with \"names\"(\"name\") as (select ?1 from \"pet\") insert or ignore into \"book\" (\"title\", \"id\", \"pages\") values (upper(?2), ?3, null), (null, null, null), (null, ?4, ?5)"
  params := [.string "Rex", .string "emma", .i32 7, .i32 8, .i32 3]
  kind := .insert

theorem ragged_under_columns :
    (Plan.insert (read.insert .insert "book") ragged).query.compile .sqlite = .ok raggedStatement ∧
    (∃ bodies tuples, (ragged.foldl apply (read.insert .insert "book")).Tabled .sqlite (given ragged)
      ["title", "id", "pages"] bodies tuples raggedStatement) ∧
    (Plan.insert (read.insert .insert "book") [.values [[], []]]).query.compile .postgres =
      .error (.unsupported .severalDefaultRows .postgres) := by
  have h : (Plan.insert (read.insert .insert "book") ragged).query.compile .sqlite = .ok raggedStatement := by
    decide +kernel
  obtain ⟨columns, bodies, tuples, ht⟩ :=
    (rows_under_columns read .insert "book" ragged .sqlite (by simp [given, ragged])).1
      (by simp [given, ragged]) raggedStatement h
  have hc : columns = ["title", "id", "pages"] := ht.union.trans (by decide)
  have hd := (rows_under_columns read .insert "book" [.values [[], []]] .postgres (by simp [given])).2 rfl
  have hb : ∃ bodies, Cte.Bodies .postgres read.ctes bodies := Cte.flawsAll_eq_nil_iff.mp (by decide +kernel)
  exact ⟨h, ⟨bodies, tuples, hc ▸ ht⟩, hd.refused hb (by decide) (by decide) (by decide)⟩

end InsertCall

end SqlBuilder.Build
