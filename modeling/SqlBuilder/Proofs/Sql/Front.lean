import SqlBuilder.Proofs.Sql.Closed
import SqlBuilder.Proofs.Sql.Fault
import SqlBuilder.Proofs.Sql.Values
/-!
The common table expressions in front of a query. Each is written with the text of its body alone, the query
behind them as it is without them, and the numbers go on from one to the next.
-/
namespace SqlBuilder.Sql

variable {d : Dialect}

namespace Part

-- The texts of lists of parts that follow each other, `n` numbers being given out before the first.
def texts (d : Dialect) (n : Nat) : List (List Part) → List String
  | [] => []
  | ps :: pss =>
    Piece.numbered d (n + 1) (allPieces d ps) ::
      texts d (n + (Piece.values (allPieces d ps)).length) pss

variable {ps qs : List Part} {pss : List (List Part)} {n : Nat}

theorem numbered_allPieces_append : Piece.numbered d (n + 1) (allPieces d (ps ++ qs)) =
    Piece.numbered d (n + 1) (allPieces d ps) ++
      Piece.numbered d (n + (Piece.values (allPieces d ps)).length + 1) (allPieces d qs) := by
  rw [allPieces, List.flatMap_append, ← allPieces, ← allPieces, Piece.numbered_append, Nat.add_right_comm]

theorem values_allPieces_append : Piece.values (allPieces d (ps ++ qs)) =
    Piece.values (allPieces d ps) ++ Piece.values (allPieces d qs) := by
  rw [allPieces, List.flatMap_append, ← allPieces, ← allPieces, Piece.values_append]

theorem numbered_text_cons (s : String) : Piece.numbered d n (allPieces d (text s :: ps)) =
    s ++ Piece.numbered d n (allPieces d ps) := rfl

theorem numbered_separated (separator : String) : (pss : List (List Part)) → (n : Nat) →
    Piece.numbered d (n + 1) (allPieces d (separated separator pss)) = separator.intercalate (texts d n pss)
  | [], n => by simp [separated, joined, allPieces, texts, Piece.numbered]
  | [ps], n => by simp [separated, joined, eachLed, texts]
  | ps :: qs :: pss, n => by
    have hs : separated separator (ps :: qs :: pss) =
        ps ++ text separator :: separated separator (qs :: pss) := rfl
    have ht : texts d n (ps :: qs :: pss) = Piece.numbered d (n + 1) (allPieces d ps) ::
        texts d (n + (Piece.values (allPieces d ps)).length) (qs :: pss) := rfl
    rw [hs, numbered_allPieces_append, numbered_text_cons, numbered_separated separator (qs :: pss), ht, texts,
      String.intercalate_cons_cons, String.append_assoc]

theorem numbered_listClause (before after : String) (h : pss ≠ []) :
    Piece.numbered d (n + 1) (allPieces d (listClause before pss after)) =
      before ++ ", ".intercalate (texts d n pss) ++ after := by
  obtain ⟨ps, pss, rfl⟩ := List.exists_cons_of_ne_nil h
  have hc : listClause before (ps :: pss) after =
      text before :: (separated ", " (ps :: pss) ++ [text after]) := rfl
  rw [hc, numbered_text_cons, numbered_allPieces_append, numbered_separated, String.append_assoc]
  simp [allPieces, pieces, Piece.numbered]

end Part

-- What a query compiles to by itself, where its values have the numbers from 1 on.
structure Query.Alone (d : Dialect) (q : Query) (s : Statement) : Prop where
  compiled : q.compile d = .ok s
  sql : s.sql = q.textAfter d 0

theorem Query.alone_of_compile {q : Query} {s : Statement} (h : q.compile d = .ok s) : q.Alone d s :=
  ⟨h, by rw [(eq_of_compile h).2, textAfter]⟩

namespace Cte

def parts (d : Dialect) (scopes : List Scope) (c : Cte) : List Part :=
  (Part.table c.name ++ .text "(" :: (Part.names c.columns ++ [.text ") as ("])) ++
    (c.body.parts d scopes ++ [.text ")"])

theorem partsEach_eq_map (scopes : List Scope) (cs : List Cte) :
    partsEach d scopes cs = cs.map (parts d scopes) := by
  induction cs with
  | nil => rfl
  | cons c cs ih =>
    obtain ⟨name, columns, body⟩ := c
    simp [partsEach, parts, ih]

-- The text of a common table expression, `n` numbers being given out before the first value of its body.
def textAfter (d : Dialect) (n : Nat) (c : Cte) : String :=
  tableName d c.name ++ "(" ++ columnsText d c.columns ++ ") as (" ++
    (Query.select c.body).textAfter d n ++ ")"

-- The texts of common table expressions with the statements of their bodies, numbered from one to the next.
def textsAfter (d : Dialect) (n : Nat) : List Cte → List Statement → List String
  | c :: cs, b :: bs => c.textAfter d n :: textsAfter d (n + b.params.length) cs bs
  | _, _ => []

-- What stands in front of a query, nothing without common table expressions.
def front (d : Dialect) (cs : List Cte) (bodies : List Statement) : String :=
  if cs.isEmpty then "" else "with " ++ ", ".intercalate (textsAfter d 0 cs bodies) ++ " "

-- The statements that the bodies compile to when each stands alone.
abbrev Bodies (d : Dialect) : List Cte → List Statement → Prop :=
  List.Forall₂ fun c b => (Query.select c.body).Alone d b

variable {cs : List Cte} {bodies : List Statement}

-- What stands in front of the body is one text.
theorem head_writes (c : Cte) :
    Writer.Writes d [] (.text (tableName d c.name ++ "(" ++ (columnsText d c.columns ++ ") as (")))
      (Part.table c.name ++ .text "(" :: (Part.names c.columns ++ [.text ") as ("])) := by
  have h : Writer.Writes d [] _ (Part.table c.name ++ [.text "("] ++ (Part.names c.columns ++ [.text ") as ("])) :=
    ((Part.table_writes d [] c.name).append (.text "(")).append
      ((Part.names_writes d [] c.columns).append (.text ") as ("))
  rwa [List.append_assoc, List.singleton_append] at h

theorem numbered_parts (n : Nat) (c : Cte) :
    Piece.numbered d (n + 1) (Part.allPieces d (c.parts d [])) = c.textAfter d n := by
  obtain ⟨hv, hn⟩ := (head_writes (d := d) c).text_eq
  rw [parts, Part.numbered_allPieces_append, hn, hv, Part.numbered_allPieces_append]
  simp [textAfter, Query.textAfter, Query.pieces, Query.parts, Part.allPieces, Part.pieces, Piece.numbered,
    String.append_assoc]

theorem values_parts (c : Cte) :
    Piece.values (Part.allPieces d (c.parts d [])) = Piece.values ((Query.select c.body).pieces d) := by
  rw [parts, Part.values_allPieces_append, (head_writes c).text_eq.1, Part.values_allPieces_append]
  simp [Query.pieces, Query.parts, Part.allPieces, Part.pieces, Piece.values, Piece.value?]

theorem texts_partsEach (h : Bodies d cs bodies) (n : Nat) :
    Part.texts d n (partsEach d [] cs) = textsAfter d n cs bodies := by
  rw [partsEach_eq_map]
  induction h generalizing n with
  | nil => rfl
  | @cons c b cs bodies hb _ ih =>
    have hp : Piece.values ((Query.select c.body).pieces d) = b.params := by
      rw [(Query.eq_of_compile hb.compiled).2]
    rw [List.map_cons, Part.texts, numbered_parts, values_parts, hp, ih, textsAfter]

theorem valuesAll_eq (h : Bodies d cs bodies) : valuesAll cs = bodies.flatMap Statement.params := by
  induction h with
  | nil => rfl
  | @cons c b cs bodies hb _ ih =>
    obtain ⟨name, columns, body⟩ := c
    rw [valuesAll, ih, List.flatMap_cons, Query.params_eq_values hb.compiled]
    rfl

theorem exists_bodies : {cs : List Cte} → flawsAll cs = [] → ∃ bodies, Bodies d cs bodies
  | [], _ => ⟨[], .nil⟩
  | ⟨_, _, body⟩ :: cs, h => by
    obtain ⟨hb, hs⟩ := List.append_eq_nil_iff.mp h
    obtain ⟨b, hb⟩ := (Query.exists_compile_eq_ok_iff (d := d) (q := .select body)).mpr
      (by rw [Query.faults, hb, List.map_nil])
    obtain ⟨bodies, hbodies⟩ := exists_bodies hs
    exact ⟨b :: bodies, .cons (Query.alone_of_compile hb) hbodies⟩

theorem numbered_front (h : Bodies d cs bodies) :
    Piece.numbered d 1 (Part.allPieces d (Part.listClause "with " (partsEach d [] cs) " ")) =
      front d cs bodies := by
  cases cs
  case nil => simp [partsEach, Part.listClause, Part.clause, Part.allPieces, Piece.numbered, front]
  case cons c cs =>
    have hn : partsEach d [] (c :: cs) ≠ [] := by simp [partsEach_eq_map]
    rw [Part.numbered_listClause (n := 0) _ _ hn, texts_partsEach h, front]
    rfl

theorem values_front (hc : flawsAll cs = []) (h : Bodies d cs bodies) :
    Piece.values (Part.allPieces d (Part.listClause "with " (partsEach d [] cs) " ")) =
      bodies.flatMap Statement.params := by
  have hf : Piece.firstFault? (Part.allPieces d (Part.listClause "with " (partsEach d [] cs) " ")) = none := by
    simp [Part.firstFault?_allPieces, errors_partsEach, hc]
  rw [Part.values_allPieces hf, Part.values_listClause, values_partsEach, valuesAll_eq h]

end Cte

theorem orderParts_eq_nil {selections : List Selection} {order : List Order}
    (h : orderFlaws selections order = []) : orderParts selections order = [] := by
  unfold orderFlaws at h
  unfold orderParts
  cases hu : unselected? selections order
  case none => rfl
  case some name => simp [hu] at h

namespace Query

-- The common table expressions that a query declares itself.
def ctes : Query → List Cte
  | select q => q.ctes
  | insert q => q.ctes
  | update q => q.ctes
  | delete q => q.ctes

def withoutCtes : Query → Query
  | select q => select { q with ctes := [] }
  | insert q => insert { q with ctes := [] }
  | update q => update { q with ctes := [] }
  | delete q => delete { q with ctes := [] }

variable {q : Query}

-- Whatever is wrong with a query is wrong in one of the expressions or in the query behind them.
theorem faults_eq_nil_iff : q.faults d = [] ↔ Cte.flawsAll q.ctes = [] ∧ q.withoutCtes.faults d = [] := by
  cases q
  case select q =>
    obtain ⟨ctes, distinct, whole, selections, table, joins, filter, groups, order, page⟩ := q
    simp [faults, Query.ctes, withoutCtes, Select.flaws, Cte.flawsAll, and_left_comm]
  case insert q =>
    cases hr : q.rows <;> simp [faults, ctes, withoutCtes, Insert.faults, Insert.rowsFaults, Insert.verbFaults,
      Insert.cellFlaws, Cte.flawsAll, hr]
  case update q =>
    cases hs : q.sets <;> simp [faults, ctes, withoutCtes, Update.faults, Cte.flawsAll, hs]
  case delete q => simp [faults, ctes, withoutCtes, Delete.flaws, Cte.flawsAll]

theorem values_eq_front (q : Query) : q.values = Cte.valuesAll q.ctes ++ q.withoutCtes.values := by
  cases q
  case select q =>
    obtain ⟨ctes, distinct, whole, selections, table, joins, filter, groups, order, page⟩ := q
    simp [values, Query.ctes, withoutCtes, Select.values, Cte.valuesAll]
  all_goals
    simp [values, ctes, withoutCtes, Insert.values, Update.values, Delete.values, Cte.valuesAll]

-- Behind the expressions a query without faults writes what it writes without them.
theorem parts_eq_front (h : q.faults d = []) :
    q.parts d = Part.listClause "with " (Cte.partsEach d [] q.ctes) " " ++ q.withoutCtes.parts d := by
  have hn : Part.listClause "with " (Cte.partsEach d [] []) " " = [] := rfl
  cases q
  case select q =>
    obtain ⟨ctes, distinct, whole, selections, table, joins, filter, groups, order, page⟩ := q
    have ho : orderFlaws selections order = [] := by
      have hq := List.map_eq_nil_iff.mp h
      simp only [Select.flaws, List.append_assoc] at hq
      exact (List.append_eq_nil_iff.mp hq).1
    simp [parts, Query.ctes, withoutCtes, Select.parts, orderParts_eq_nil ho, hn]
  case insert q =>
    have hr : q.rows.isEmpty = false := by
      cases hr : q.rows.isEmpty
      case false => rfl
      case true => simp [faults, Insert.faults, hr] at h
    simp only [parts, ctes, withoutCtes, Insert.parts, hr, hn]
    simp [Insert.verbParts, Insert.rowsParts, Insert.conflictParts, Insert.verb, Insert.conflictDoesNothing]
  case update q =>
    have hs : q.sets.isEmpty = false := by
      cases hs : q.sets.isEmpty
      case false => rfl
      case true => simp [faults, Update.faults, hs] at h
    simp [parts, ctes, withoutCtes, Update.parts, hs, hn]
  case delete q => simp [parts, ctes, withoutCtes, Delete.parts, hn]

-- Whether a statement is that of a query behind common table expressions, given the statements that the
-- bodies of the expressions and the query compile to alone.
structure Fronted (d : Dialect) (cs : List Cte) (q : Query) (bodies : List Statement) (own s : Statement) :
    Prop where
  each : Cte.Bodies d cs bodies
  behind : q.Alone d own
  -- the numbers go on from one body to the next and from the last body to the query
  sql : s.sql = Cte.front d cs bodies ++ q.textAfter d (bodies.flatMap Statement.params).length
  params : s.params = bodies.flatMap Statement.params ++ own.params
  kind : s.kind = own.kind

theorem exists_fronted {s : Statement} (h : q.compile d = .ok s) :
    ∃ bodies own, Fronted d q.ctes q.withoutCtes bodies own s := by
  have hq : q.faults d = [] := exists_compile_eq_ok_iff.mp ⟨s, h⟩
  obtain ⟨hc, ho⟩ := faults_eq_nil_iff.mp hq
  obtain ⟨bodies, hb⟩ := Cte.exists_bodies (d := d) hc
  obtain ⟨own, ho⟩ := exists_compile_eq_ok_iff.mpr ho
  refine ⟨bodies, own, hb, alone_of_compile ho, ?sql, ?params, ?kind⟩
  case sql =>
    have hf := Cte.numbered_front hb
    have hv := Cte.values_front hc hb
    rw [(eq_of_compile h).2, pieces, parts_eq_front hq, Part.numbered_allPieces_append (n := 0), hf, hv,
      Nat.zero_add]
    rfl
  case params => rw [params_eq_values h, params_eq_values ho, values_eq_front, Cte.valuesAll_eq hb]
  case kind =>
    rw [(eq_of_compile h).2, (eq_of_compile ho).2]
    cases q <;> rfl

end Query

end SqlBuilder.Sql
