import SqlBuilder.Proofs.Build.Declared
import SqlBuilder.Proofs.Sql.Grouping
/-!
Calls that filter. The conditions of a query are its calls in their order, without those that add nothing, and
what is written of them gives back how they are grouped.
-/
namespace SqlBuilder.Sql

def Condition.isGroup : Condition → Bool
  | group _ => true
  | _ => false

theorem Condition.solid_of_isGroup_eq_false : {c : Condition} → c.isGroup = false → c.Solid
  | .compare _ _ _, _ | .isNull _ _, _ | .between _ _ _ _, _ | .member _ _ _, _ | .memberOf _ _ _, _
  | .exists _ _, _ | .raw _, _ => trivial

namespace Query

-- The conditions that a query is filtered by.
def filter : Query → List Clause
  | select q => q.filter
  | insert _ => []
  | update q => q.filter
  | delete q => q.filter

def withoutFilter : Query → Query
  | select q => select { q with filter := [] }
  | insert q => insert q
  | update q => update { q with filter := [] }
  | delete q => delete { q with filter := [] }

def joins : Query → List Join
  | select q => q.joins
  | _ => []

end Query

end SqlBuilder.Sql

namespace SqlBuilder.Build

open Sql

namespace FilterCall

mutual

-- Whether a call adds a condition. A group does if one of its own calls does.
def adds : FilterCall → Bool
  | test _ _ => true
  | group _ calls => addsAny calls

def addsAny : List FilterCall → Bool
  | [] => false
  | f :: fs => f.adds || addsAny fs

end

mutual

-- A call without the calls in it that add nothing, at any depth.
def kept : FilterCall → FilterCall
  | test conjunction condition => test conjunction condition
  | group conjunction calls => group conjunction (keptAll calls)

def keptAll : List FilterCall → List FilterCall
  | [] => []
  | f :: fs => if f.adds then f.kept :: keptAll fs else keptAll fs

end

mutual

-- The condition that a call stands for, and those that calls stand for one by one.
def clause : FilterCall → Clause
  | test conjunction condition => ⟨conjunction, condition⟩
  | group conjunction calls => ⟨conjunction, .group (each calls)⟩

def each : List FilterCall → List Clause
  | [] => []
  | f :: fs => f.clause :: each fs

end

mutual

-- Whether the calls make groups from calls only.
def Plain : FilterCall → Prop
  | test _ condition => condition.isGroup = false
  | group _ calls => PlainAll calls

def PlainAll : List FilterCall → Prop
  | [] => True
  | f :: fs => f.Plain ∧ PlainAll fs

end

theorem keptAll_eq_nil_iff {fs : List FilterCall} : keptAll fs = [] ↔ addsAny fs = false := by
  induction fs with
  | nil => exact iff_of_true rfl rfl
  | cons f fs ih =>
    rw [keptAll, addsAny]
    cases f.adds
    case false => simpa using ih
    case true => simp

mutual

theorem clause?_eq : (f : FilterCall) → f.clause? = if f.adds then some f.kept.clause else none
  | test conjunction condition => rfl
  | group conjunction calls => by
    rw [clause?, clauses_eq calls, adds, kept, clause]
    cases hk : keptAll calls with
    | nil => rw [keptAll_eq_nil_iff.mp hk]; rfl
    | cons f fs =>
      have ha : addsAny calls = true := by
        rw [← Bool.not_eq_false, ← keptAll_eq_nil_iff, hk]
        exact List.cons_ne_nil f fs
      rw [ha, if_pos rfl]
      rfl

-- The conditions are the calls that are kept, in their order.
theorem clauses_eq : (fs : List FilterCall) → clauses fs = each (keptAll fs)
  | [] => rfl
  | f :: fs => by
    rw [clauses, clause?_eq f, clauses_eq fs, keptAll]
    cases f.adds <;> rfl

end

theorem clauses_eq_nil_iff {fs : List FilterCall} : clauses fs = [] ↔ addsAny fs = false := by
  rw [clauses_eq, ← keptAll_eq_nil_iff]
  cases keptAll fs <;> simp [each]

theorem clauses_append (fs gs : List FilterCall) : clauses (fs ++ gs) = clauses fs ++ clauses gs := by
  induction fs with
  | nil => rfl
  | cons f fs ih => rw [List.cons_append, clauses, ih, clauses, List.append_assoc]

theorem clauses_cons (f : FilterCall) (fs : List FilterCall) : clauses (f :: fs) = clauses [f] ++ clauses fs :=
  clauses_append [f] fs

mutual

theorem solid_of_mem_clause? : (f : FilterCall) → f.Plain → ∀ c ∈ f.clause?, c.condition.Solid
  | test conjunction condition, h => by
    rintro _ ⟨⟩
    exact Condition.solid_of_isGroup_eq_false h
  | group conjunction calls, h => by
    have hs := solidAll_clauses calls h
    rw [clause?]
    split
    case h_1 => simp
    case h_2 c cs hc =>
      rintro _ ⟨⟩
      rw [hc] at hs
      exact ⟨List.cons_ne_nil c cs, hs⟩

-- No group of conditions that calls leave is empty.
theorem solidAll_clauses : (fs : List FilterCall) → PlainAll fs → Clause.SolidAll (clauses fs)
  | [], _ => trivial
  | f :: fs, ⟨hf, hfs⟩ => by
    have hs := solidAll_clauses fs hfs
    have hc := solid_of_mem_clause? f hf
    rw [clauses]
    cases hcf : f.clause? with
    | none => exact hs
    | some c =>
      obtain ⟨conjunction, condition⟩ := c
      exact ⟨hc _ hcf, hs⟩

end

end FilterCall

-- Whether conditions are what calls that filter come down to, and are written so that they can be read back.
structure FilterCall.Shapes (calls : List FilterCall) (cs : List Clause) : Prop where
  kept : cs = each (keptAll calls)
  solid : Clause.SolidAll cs
  -- a word is written in front of them exactly when there are any
  absent : addsAny calls = false → ∀ d scopes word, Part.clause word (Clause.partsEach d scopes cs) = []
  present : addsAny calls = true → ∀ d scopes word, Part.clause word (Clause.partsEach d scopes cs) =
    .text word :: ((Clause.tokens cs).flatMap (Token.parts d scopes) ++ [.text ""])
  read : addsAny calls = true → Tree.read? [] (.inFront [] none) (Clause.tokens cs) = some (Clause.members cs)
  between : ∀ before conjunction after, Clause.tokens cs = before ++ .joins conjunction :: after →
    (∃ t ∈ before.getLast?, t.Ends) ∧ ∃ t ∈ after.head?, t.Begins

theorem FilterCall.shapes_clauses {calls : List FilterCall} (h : PlainAll calls) :
    Shapes calls (clauses calls) := by
  have hs := solidAll_clauses calls h
  have hne (ha : addsAny calls = true) : clauses calls ≠ [] := by
    intro hn
    simp [clauses_eq_nil_iff.mp hn] at ha
  refine ⟨clauses_eq calls, hs, ?absent, ?present, ?read, ?between⟩
  case absent =>
    intro ha d scopes word
    rw [clauses_eq_nil_iff.mpr ha]
    rfl
  case present =>
    intro ha d scopes word
    exact Clause.clause_parts word (hne ha)
  case read => exact fun ha => Tree.read?_tokens (hne ha) hs
  case between =>
    intro before conjunction after ht
    have hsome : clauses calls ≠ [] := by
      intro hn
      rw [hn] at ht
      simp [Clause.tokens] at ht
    have hread := Tree.read?_tokens hsome hs
    rw [ht] at hread
    obtain ⟨hfirst, hlast, hafter⟩ := Tree.between_of_read? hread
    have hbefore : before ≠ [] := fun hn => nomatch (hfirst hn).choose_spec
    have hend := List.getLast?_eq_some_getLast hbefore
    exact ⟨⟨_, hend, hlast _ hend⟩, hafter⟩

namespace SelectCall

mutual

-- The calls that filter a select itself, in their order, and those that join a table with calls of their own.
def filters : SelectCall → List FilterCall
  | filter f => [f]
  | call calls => filtersAll calls
  | select _ | distinct | join _ _ | groupBy _ | orderBy _ | limit _ | offset _ | page _ _ => []

def filtersAll : List SelectCall → List FilterCall
  | [] => []
  | c :: cs => c.filters ++ filtersAll cs

end

mutual

def joins : SelectCall → List (TableRef × List FilterCall)
  | join table on => [(table, on)]
  | call calls => joinsAll calls
  | select _ | distinct | filter _ | groupBy _ | orderBy _ | limit _ | offset _ | page _ _ => []

def joinsAll : List SelectCall → List (TableRef × List FilterCall)
  | [] => []
  | c :: cs => c.joins ++ joinsAll cs

end

def joined (j : TableRef × List FilterCall) : Join := ⟨j.1, FilterCall.clauses j.2⟩

mutual

theorem filter_apply (q : Select) : (c : SelectCall) →
    (apply q c).filter = q.filter ++ FilterCall.clauses c.filters
  | .call calls => filter_applyAll q calls
  | .filter _ => rfl
  | .select _ | .distinct | .join _ _ | .groupBy _ | .orderBy _ | .limit _ | .offset _ | .page _ _ =>
    (List.append_nil _).symm

theorem filter_applyAll (q : Select) : (cs : List SelectCall) →
    (applyAll q cs).filter = q.filter ++ FilterCall.clauses (filtersAll cs)
  | [] => (List.append_nil _).symm
  | c :: cs => by
    rw [applyAll, filter_applyAll (apply q c) cs, filter_apply q c, filtersAll, FilterCall.clauses_append,
      List.append_assoc]

end

mutual

theorem joins_apply (q : Select) : (c : SelectCall) → (apply q c).joins = q.joins ++ c.joins.map joined
  | .call calls => joins_applyAll q calls
  | .join _ _ => rfl
  | .select _ | .distinct | .filter _ | .groupBy _ | .orderBy _ | .limit _ | .offset _ | .page _ _ =>
    (List.append_nil _).symm

theorem joins_applyAll (q : Select) : (cs : List SelectCall) →
    (applyAll q cs).joins = q.joins ++ (joinsAll cs).map joined
  | [] => (List.append_nil _).symm
  | c :: cs => by
    rw [applyAll, joins_applyAll (apply q c) cs, joins_apply q c, joinsAll, List.map_append, List.append_assoc]

end

end SelectCall

namespace UpdateCall

def filter? : UpdateCall → Option FilterCall
  | filter f => some f
  | set _ _ => none

theorem filter_foldl (q : Update) (cs : List UpdateCall) :
    (cs.foldl apply q).filter = q.filter ++ FilterCall.clauses (cs.filterMap filter?) := by
  induction cs generalizing q with
  | nil => exact (List.append_nil _).symm
  | cons c cs ih =>
    rw [List.foldl_cons, ih]
    cases c with
    | set column e => rfl
    | filter f =>
      have hf : (filter f :: cs).filterMap filter? = f :: cs.filterMap filter? := rfl
      rw [hf, FilterCall.clauses_cons, ← List.append_assoc]
      rfl

end UpdateCall

theorem filter_foldl_applyFilter (q : Delete) (fs : List FilterCall) :
    (fs.foldl applyFilter q).filter = q.filter ++ FilterCall.clauses fs := by
  induction fs generalizing q with
  | nil => exact (List.append_nil _).symm
  | cons f fs ih =>
    rw [List.foldl_cons, ih, FilterCall.clauses_cons, ← List.append_assoc]
    rfl

namespace Plan

-- The calls of a plan that filter its query, and those that join tables to it.
def filters : Plan → List FilterCall
  | select _ calls => SelectCall.filtersAll calls
  | insert _ _ => []
  | update _ calls => calls.filterMap UpdateCall.filter?
  | delete _ calls => calls

def joins : Plan → List (TableRef × List FilterCall)
  | select _ calls => SelectCall.joinsAll calls
  | _ => []

end Plan

namespace Creator

variable {creator : Creator} {plan : Plan}

theorem Starts.filter_query (h : creator.Starts plan) : plan.query.filter = FilterCall.clauses plan.filters := by
  cases h with
  | select table whole calls => exact SelectCall.filter_applyAll (creator.select table whole) calls
  | insert => rfl
  | update table calls => exact UpdateCall.filter_foldl (creator.update table) calls
  | delete table calls => exact filter_foldl_applyFilter (creator.delete table) calls

theorem Starts.joins_query (h : creator.Starts plan) : plan.query.joins = plan.joins.map SelectCall.joined := by
  cases h with
  | select table whole calls => exact SelectCall.joins_applyAll (creator.select table whole) calls
  | insert | update | delete => rfl

end Creator

-- A query with conditions is written as the one without them with one clause put in.
theorem exists_parts_eq {d : Dialect} {q : Query} {s : Statement} (h : q.compile d = .ok s) :
    ∃ scopes before after,
      q.parts d = before ++ Part.clause " where " (Clause.partsEach d scopes q.filter) ++ after ∧
      q.withoutFilter.parts d = before ++ after := by
  have hbare (scopes : List Scope) : Part.clause " where " (Clause.partsEach d scopes []) = [] := rfl
  cases q with
  | select q =>
    obtain ⟨ctes, distinct, whole, selections, table, joins, filter, groups, order, page⟩ := q
    let scopes : List Scope := [table :: joins.map Join.table]
    let before := orderParts selections order ++ Part.listClause "with " (Cte.partsEach d [] ctes) " " ++
      .text (if distinct then "select distinct " else "select ") ::
      (selectionParts scopes whole table selections ++ .text " from " :: (table.parts ++
        Join.partsAll d scopes joins))
    let after := Part.listClause " group by " (groups.map (Operand.parts scopes)) ++
      Part.listClause " order by " (order.map (Order.parts d scopes)) ++ [.text (pageText d page)]
    refine ⟨scopes, before, after, ?_, ?_⟩
    all_goals simp [Query.parts, Query.withoutFilter, Query.filter, Select.parts, hbare, scopes, before, after]
  | insert q => exact ⟨[], q.parts d, [], by simp [Query.parts, Query.filter, hbare], (List.append_nil _).symm⟩
  | update q =>
    have hs : q.sets.isEmpty = false := by
      have hf : q.faults = [] := Query.exists_compile_eq_ok_iff.mp ⟨s, h⟩
      cases hs : q.sets.isEmpty
      case false => rfl
      case true => simp [Update.faults, hs] at hf
    let before := Part.listClause "with " (Cte.partsEach d [] q.ctes) " " ++
      .text "update " :: (q.table.parts ++
        .text " set " :: Part.separated ", " (q.sets.map (Update.setParts d [[q.table]])))
    refine ⟨[[q.table]], before, [], ?_, ?_⟩
    all_goals simp [Query.parts, Query.withoutFilter, Query.filter, Update.parts, hs, hbare, before]
  | delete q =>
    let before := Part.listClause "with " (Cte.partsEach d [] q.ctes) " " ++ .text "delete from " :: q.table.parts
    refine ⟨[[q.table]], before, [], ?_, ?_⟩
    all_goals simp [Query.parts, Query.withoutFilter, Query.filter, Delete.parts, hbare, before]

-- Whatever calls filter a query or one of its joins, the conditions that are left have the structure of the calls
-- and show it, and calls that add nothing leave no trace.
theorem Plan.filters_keep_structure {creator : Creator} {plan : Plan} (hs : creator.Starts plan)
    (hf : FilterCall.PlainAll plan.filters) (hj : ∀ j ∈ plan.joins, FilterCall.PlainAll j.2) :
    FilterCall.Shapes plan.filters plan.query.filter ∧
    List.Forall₂ (fun j join => join.table = j.1 ∧ FilterCall.Shapes j.2 join.on) plan.joins plan.query.joins ∧
    (∀ d s, plan.query.compile d = .ok s → ∃ scopes before after,
      s.sql = Piece.numbered d 1 (Part.allPieces d
        (before ++ Part.clause " where " (Clause.partsEach d scopes plan.query.filter) ++ after)) ∧
      plan.query.withoutFilter.parts d = before ++ after) ∧
    ∀ f : FilterCall, f.adds = false → (∀ q, SelectCall.apply q (.filter f) = q) ∧
      (∀ q, UpdateCall.apply q (.filter f) = q) ∧ ∀ q, applyFilter q f = q := by
  refine ⟨hs.filter_query ▸ FilterCall.shapes_clauses hf, ?joins, ?written, ?idle⟩
  case joins =>
    rw [hs.joins_query, List.forall₂_map_right_iff, List.forall₂_same]
    exact fun j hm => ⟨rfl, FilterCall.shapes_clauses (hj j hm)⟩
  case written =>
    intro d s h
    obtain ⟨scopes, before, after, hparts, hbare⟩ := exists_parts_eq h
    exact ⟨scopes, before, after, by rw [(Query.eq_of_compile h).2, Query.pieces, hparts], hbare⟩
  case idle =>
    intro f ha
    have hn : FilterCall.clauses [f] = [] := FilterCall.clauses_eq_nil_iff.mpr (by simp [FilterCall.addsAny, ha])
    refine ⟨fun q => ?_, fun q => ?_, fun q => ?_⟩
    all_goals
      cases q
      simp [SelectCall.apply, UpdateCall.apply, applyFilter, hn]

-- Groups that add nothing in the first, a middle and the last position, also inside of another group.
def hollow : Plan := .select (({} : Creator).select ⟨"book", none⟩ true) [
  .filter (.group .or [.group .and []]),
  .filter (.test .or (.isNull (.column ⟨"book", "title"⟩) true)),
  .join ⟨"pet", none⟩ [.group .or [], .compareOperands (.column ⟨"pet", "id"⟩) .eq (.column ⟨"book", "id"⟩)],
  .call [.filter (.group .or [
    .group .and [],
    .test .or (.compare (.column ⟨"book", "id"⟩) .gt (.value (.i32 7))),
    .group .or [.group .and [], .group .or []],
    .test .and (.compare (.column ⟨"book", "id"⟩) .lt (.value (.i32 9)))])],
  .filter (.group .and [])]

def hollowStatement : Statement where
  sql := "select \"book\".* from \"book\" inner join \"pet\" on \"pet\".\"id\" = \"book\".\"id\" where \"book\".\"title\" is not null or (\"book\".\"id\" > $1 and \"book\".\"id\" < $2)"
  params := [.i32 7, .i32 9]
  kind := .select

theorem hollow_keeps_structure :
    ({} : Creator).Starts hollow ∧ hollow.query.compile .postgres = .ok hollowStatement ∧
    FilterCall.Shapes hollow.filters hollow.query.filter ∧
    List.Forall₂ (fun j join => join.table = j.1 ∧ FilterCall.Shapes j.2 join.on) hollow.joins hollow.query.joins ∧
    hollow.query.filter.length = 2 := by
  have hs : ({} : Creator).Starts hollow := .select ⟨"book", none⟩ true _
  have hf : FilterCall.PlainAll hollow.filters := by
    simp [hollow, Plan.filters, SelectCall.filtersAll, SelectCall.filters, FilterCall.PlainAll, FilterCall.Plain,
      Condition.isGroup]
  have hj : ∀ j ∈ hollow.joins, FilterCall.PlainAll j.2 := by
    simp [hollow, Plan.joins, SelectCall.joinsAll, SelectCall.joins, FilterCall.PlainAll, FilterCall.Plain,
      FilterCall.compareOperands, Condition.isGroup]
  have h : hollow.query.compile .postgres = .ok hollowStatement := by decide +kernel
  obtain ⟨hfilter, hjoins, -, -⟩ := Plan.filters_keep_structure hs hf hj
  exact ⟨hs, h, hfilter, hjoins, rfl⟩

end SqlBuilder.Build
