import SqlBuilder.Proofs.Sql.Arrangement
import SqlBuilder.Proofs.Sql.Flattening
import SqlBuilder.Proofs.Sql.Reference
/-!
Selects inside of queries. Each select of a query, at any depth, is written as one block, and each entry of a
from-list as one block in there.
-/
namespace SqlBuilder.Sql

-- What a select inside of a query writes there.
def Level.parts (d : Dialect) (l : Level) : List Part := l.query.parts d l.outer

section

variable (d : Dialect) {l : Level}

mutual

theorem Expr.infix_parts (scopes : List Scope) :
    (e : Expr) → l ∈ e.levels scopes → l.parts d <:+: e.parts d scopes
  | .operand _, h => nomatch h
  | .value _, h => nomatch h
  | .subquery q, h => List.infix_cons (List.infix_append_of_infix_left (q.infix_parts scopes h))

theorem Expr.infix_partsEach (scopes : List Scope) : (es : List Expr) → l ∈ Expr.levelsAll scopes es →
    ∃ ps ∈ Expr.partsEach d scopes es, l.parts d <:+: ps
  | [], h => nomatch h
  | e :: es, h => by
    rcases List.mem_append.mp h with h | h
    case inl => exact ⟨_, List.mem_cons_self, e.infix_parts scopes h⟩
    case inr =>
      have ⟨ps, hps, hi⟩ := Expr.infix_partsEach scopes es h
      exact ⟨ps, List.mem_cons_of_mem _ hps, hi⟩

theorem Condition.infix_parts (scopes : List Scope) :
    (c : Condition) → l ∈ c.levels scopes → l.parts d <:+: c.parts d scopes
  | .compare _ _ right, h =>
    List.infix_append_of_infix_right (List.infix_cons (right.infix_parts scopes h))
  | .isNull _ _, h => nomatch h
  | .between _ _ low high, h => by
    refine List.infix_append_of_infix_right (List.infix_cons ?_)
    rcases List.mem_append.mp h with h | h
    case inl => exact List.infix_append_of_infix_left (low.infix_parts scopes h)
    case inr => exact List.infix_append_of_infix_right (List.infix_cons (high.infix_parts scopes h))
  | .member _ _ values, h => by
    have ⟨ps, hps, hi⟩ := Expr.infix_partsEach scopes values h
    rw [Condition.parts]
    split
    case isTrue hv => rw [List.isEmpty_iff.mp hv] at h; cases h
    case isFalse =>
      have hs := hi.trans (Part.infix_separated ", " hps)
      exact List.infix_append_of_infix_right (List.infix_cons (List.infix_append_of_infix_left hs))
  | .memberOf _ _ q, h =>
    List.infix_append_of_infix_right
      (List.infix_cons (List.infix_append_of_infix_left (q.infix_parts scopes h)))
  | .exists _ q, h => List.infix_cons (List.infix_append_of_infix_left (q.infix_parts scopes h))
  | .group clauses, h => by
    have ⟨led, hled, hi⟩ := Clause.infix_partsEach scopes clauses h
    exact List.infix_cons (List.infix_append_of_infix_left (hi.trans (Part.infix_joined hled)))
  | .raw _, h => nomatch h

theorem Clause.infix_partsEach (scopes : List Scope) : (cs : List Clause) → l ∈ Clause.levelsAll scopes cs →
    ∃ led ∈ Clause.partsEach d scopes cs, l.parts d <:+: led.2
  | [], h => nomatch h
  | ⟨_, condition⟩ :: rest, h => by
    rcases List.mem_append.mp h with h | h
    case inl => exact ⟨_, List.mem_cons_self, condition.infix_parts scopes h⟩
    case inr =>
      have ⟨led, hled, hi⟩ := Clause.infix_partsEach scopes rest h
      exact ⟨led, List.mem_cons_of_mem _ hled, hi⟩

theorem Join.infix_partsAll (scopes : List Scope) :
    (js : List Join) → l ∈ Join.levelsAll scopes js → l.parts d <:+: Join.partsAll d scopes js
  | [], h => nomatch h
  | ⟨_, on⟩ :: rest, h => by
    refine List.infix_cons ?_
    rcases List.mem_append.mp h with h | h
    case inl =>
      have ⟨led, hled, hi⟩ := Clause.infix_partsEach scopes on h
      have hc := hi.trans (Part.infix_clause " on " "" hled)
      exact List.infix_append_of_infix_left (List.infix_append_of_infix_right hc)
    case inr => exact List.infix_append_of_infix_right (Join.infix_partsAll scopes rest h)

theorem Cte.infix_partsEach (scopes : List Scope) : (cs : List Cte) → l ∈ Cte.levelsAll scopes cs →
    ∃ ps ∈ Cte.partsEach d scopes cs, l.parts d <:+: ps
  | [], h => nomatch h
  | ⟨name, columns, body⟩ :: rest, h => by
    rcases List.mem_append.mp h with h | h
    case inl =>
      have hb := body.infix_parts scopes h
      refine ⟨_, List.mem_cons_self, List.infix_append_of_infix_right (List.infix_cons ?_)⟩
      exact List.infix_append_of_infix_right (List.infix_cons (List.infix_append_of_infix_left hb))
    case inr =>
      have ⟨ps, hps, hi⟩ := Cte.infix_partsEach scopes rest h
      exact ⟨ps, List.mem_cons_of_mem _ hps, hi⟩

theorem Select.infix_parts (outer : List Scope) :
    (q : Select) → l ∈ q.levels outer → l.parts d <:+: q.parts d outer
  | ⟨ctes, distinct, whole, selections, table, joins, filter, groups, order, page⟩, h => by
    let scopes := (table :: joins.map Join.table) :: outer
    rcases List.mem_cons.mp h with rfl | h
    case inl => exact List.infix_refl _
    rw [List.mem_append, List.mem_append] at h
    rcases h with (h | h) | h
    case inr.inl.inl =>
      have ⟨ps, hps, hi⟩ := Cte.infix_partsEach outer ctes h
      have hc := hi.trans (Part.infix_listClause "with " " " hps)
      exact List.infix_append_of_infix_left (List.infix_append_of_infix_right hc)
    -- what is left stands behind the selections
    all_goals
      refine List.infix_append_of_infix_right (List.infix_cons ?_)
      refine List.infix_append_of_infix_right (List.infix_cons ?_)
    case inr.inl.inr =>
      have hj := Join.infix_partsAll scopes joins h
      iterate 4 refine List.infix_append_of_infix_left ?_
      exact List.infix_append_of_infix_right hj
    case inr.inr =>
      have ⟨led, hled, hi⟩ := Clause.infix_partsEach scopes filter h
      have hc := hi.trans (Part.infix_clause " where " "" hled)
      iterate 3 refine List.infix_append_of_infix_left ?_
      exact List.infix_append_of_infix_right hc

end

variable {d}

theorem Insert.infix_rowsParts {q : Insert} (h : l ∈ Expr.levelsAll [] q.cells) :
    l.parts d <:+: q.rowsParts d := by
  obtain ⟨ps, hps, hi⟩ := Expr.infix_partsEach d [] q.cells h
  rw [Expr.partsEach_eq_map] at hps
  obtain ⟨e, he, rfl⟩ := List.mem_map.mp hps
  simp only [cells, List.mem_flatMap, List.mem_filterMap] at he
  obtain ⟨row, hrow, column, hcolumn, hcell⟩ := he
  have hc : e.parts d [] <:+: Part.separated ", " ((united q.rows).map (cellParts d row)) := by
    refine Part.infix_separated ", " (List.mem_map.mpr ⟨column, hcolumn, ?_⟩)
    rw [cellParts, hcell]
  have hr : e.parts d [] <:+: Part.separated ", " (q.rows.map (rowParts d (united q.rows))) := by
    refine List.IsInfix.trans ?_ (Part.infix_separated ", " (List.mem_map_of_mem hrow))
    exact List.infix_cons (List.infix_append_of_infix_left hc)
  have hn : ¬(united q.rows).isEmpty = true := by
    rw [List.isEmpty_iff]
    exact List.ne_nil_of_mem hcolumn
  rw [rowsParts, if_neg hn]
  exact List.infix_cons (List.infix_append_of_infix_right (List.infix_cons (hi.trans hr)))

theorem Update.infix_setsParts {scopes : List Scope} {sets : Assignments}
    (h : l ∈ Expr.levelsAll scopes (sets.map (·.2))) :
    l.parts d <:+: Part.separated ", " (sets.map (setParts d scopes)) := by
  obtain ⟨ps, hps, hi⟩ := Expr.infix_partsEach d scopes (sets.map (·.2)) h
  rw [Expr.partsEach_eq_map, List.map_map] at hps
  obtain ⟨a, ha, rfl⟩ := List.mem_map.mp hps
  have hs : l.parts d <:+: setParts d scopes a := List.infix_cons (List.infix_cons hi)
  exact hs.trans (Part.infix_separated ", " (List.mem_map_of_mem ha))

theorem Cte.infix_with {ctes : List Cte} (h : l ∈ Cte.levelsAll [] ctes) :
    l.parts d <:+: Part.listClause "with " (Cte.partsEach d [] ctes) " " := by
  obtain ⟨ps, hps, hi⟩ := Cte.infix_partsEach d [] ctes h
  exact hi.trans (Part.infix_listClause "with " " " hps)

theorem Clause.infix_where {scopes : List Scope} {filter : List Clause}
    (h : l ∈ Clause.levelsAll scopes filter) :
    l.parts d <:+: Part.clause " where " (Clause.partsEach d scopes filter) := by
  obtain ⟨led, hled, hi⟩ := Clause.infix_partsEach d scopes filter h
  exact hi.trans (Part.infix_clause " where " "" hled)

namespace Query

-- Whether anything of a query is written: an insert has to have rows, and an update assignments.
def Begins : Query → Prop
  | insert q => q.rows ≠ []
  | update q => q.sets ≠ []
  | _ => True

-- Every select of a query is written as one block.
theorem infix_parts {q : Query} (hb : q.Begins) (h : l ∈ q.levels) : l.parts d <:+: q.parts d := by
  cases q
  case select q => exact q.infix_parts d [] h
  case insert q =>
    have hr : ¬q.rows.isEmpty = true := fun hr => hb (List.isEmpty_iff.mp hr)
    rw [parts, Insert.parts, if_neg hr]
    rcases List.mem_append.mp h with h | h
    case inl =>
      iterate 3 refine List.infix_append_of_infix_left ?_
      exact Cte.infix_with h
    case inr =>
      refine List.infix_append_of_infix_right (List.infix_cons ?_)
      exact List.infix_append_of_infix_left (Insert.infix_rowsParts h)
  case update q =>
    have hs : ¬q.sets.isEmpty = true := fun hs => hb (List.isEmpty_iff.mp hs)
    rw [parts, Update.parts, if_neg hs]
    rw [levels, List.mem_append, List.mem_append] at h
    rcases h with (h | h) | h
    case inl.inl => exact List.infix_append_of_infix_left (Cte.infix_with h)
    -- what is left stands behind the table
    all_goals
      refine List.infix_append_of_infix_right (List.infix_cons ?_)
      refine List.infix_append_of_infix_right (List.infix_cons ?_)
    case inl.inr => exact List.infix_append_of_infix_left (Update.infix_setsParts h)
    case inr => exact List.infix_append_of_infix_right (Clause.infix_where h)
  case delete q =>
    rcases List.mem_append.mp h with h | h
    case inl => exact List.infix_append_of_infix_left (Cte.infix_with h)
    case inr =>
      refine List.infix_append_of_infix_right (List.infix_cons ?_)
      exact List.infix_append_of_infix_right (Clause.infix_where h)

end Query

end

-- The from-lists around selects are the given ones and from-lists of the selects themselves.
def Around (scopes : List Scope) (levels : List Level) : Prop :=
  ∀ l ∈ levels, ∀ s ∈ l.outer, s ∈ scopes ∨ ∃ l' ∈ levels, s = l'.query.fromList

namespace Around

variable {scopes : List Scope} {levels levels' : List Level}

theorem nil : Around scopes [] := fun _ h => nomatch h

theorem append (h : Around scopes levels) (h' : Around scopes levels') : Around scopes (levels ++ levels') := by
  intro l hl s hs
  rcases List.mem_append.mp hl with hl | hl
  case inl => exact (h l hl s hs).imp_right fun ⟨m, hm, he⟩ => ⟨m, List.mem_append_left _ hm, he⟩
  case inr => exact (h' l hl s hs).imp_right fun ⟨m, hm, he⟩ => ⟨m, List.mem_append_right _ hm, he⟩

theorem mono {scopes' : List Scope} (h : Around scopes levels) (hs : scopes ⊆ scopes') : Around scopes' levels :=
  fun l hl s hm => (h l hl s hm).imp_left (hs ·)

-- What stands in a select has the from-list of the select around it.
theorem select {q : Select} (h : Around (q.fromList :: scopes) levels) :
    Around scopes (⟨scopes, q⟩ :: levels) := by
  intro l hl s hs
  rcases List.mem_cons.mp hl with rfl | hl
  case inl => exact .inl hs
  case inr =>
    rcases h l hl s hs with hm | ⟨m, hm, he⟩
    case inl =>
      rcases List.mem_cons.mp hm with rfl | hm
      case inl => exact .inr ⟨_, List.mem_cons_self, rfl⟩
      case inr => exact .inl hm
    case inr => exact .inr ⟨m, List.mem_cons_of_mem _ hm, he⟩

end Around

mutual

theorem Expr.around (scopes : List Scope) : (e : Expr) → Around scopes (e.levels scopes)
  | .operand _ => .nil
  | .value _ => .nil
  | .subquery q => q.around scopes

theorem Expr.around_all (scopes : List Scope) : (es : List Expr) → Around scopes (Expr.levelsAll scopes es)
  | [] => .nil
  | e :: es => (e.around scopes).append (Expr.around_all scopes es)

theorem Condition.around (scopes : List Scope) : (c : Condition) → Around scopes (c.levels scopes)
  | .compare _ _ right => right.around scopes
  | .isNull _ _ => .nil
  | .between _ _ low high => (low.around scopes).append (high.around scopes)
  | .member _ _ values => Expr.around_all scopes values
  | .memberOf _ _ q => q.around scopes
  | .exists _ q => q.around scopes
  | .group clauses => Clause.around_all scopes clauses
  | .raw _ => .nil

theorem Clause.around_all (scopes : List Scope) : (cs : List Clause) → Around scopes (Clause.levelsAll scopes cs)
  | [] => .nil
  | ⟨_, condition⟩ :: rest => (condition.around scopes).append (Clause.around_all scopes rest)

theorem Join.around_all (scopes : List Scope) : (js : List Join) → Around scopes (Join.levelsAll scopes js)
  | [] => .nil
  | ⟨_, on⟩ :: rest => (Clause.around_all scopes on).append (Join.around_all scopes rest)

theorem Cte.around_all (scopes : List Scope) : (cs : List Cte) → Around scopes (Cte.levelsAll scopes cs)
  | [] => .nil
  | ⟨_, _, body⟩ :: rest => (body.around scopes).append (Cte.around_all scopes rest)

theorem Select.around (outer : List Scope) : (q : Select) → Around outer (q.levels outer)
  | ⟨ctes, distinct, whole, selections, table, joins, filter, groups, order, page⟩ => by
    let scopes := (table :: joins.map Join.table) :: outer
    have hc := (Cte.around_all outer ctes).mono (List.subset_cons_self _ _ : outer ⊆ scopes)
    exact .select ((hc.append (Join.around_all scopes joins)).append (Clause.around_all scopes filter))

end

variable {d : Dialect} {t : TableRef}

theorem Join.infix_entry {scopes : List Scope} {joins : List Join} (h : t ∈ joins.map Join.table) :
    t.parts <:+: Join.partsAll d scopes joins := by
  induction joins with
  | nil => cases h
  | cons join joins ih =>
    obtain ⟨table, on⟩ := join
    refine List.infix_cons ?_
    rcases List.mem_cons.mp h with rfl | h
    case inl => exact List.infix_append_of_infix_left List.infix_append_left
    case inr => exact List.infix_append_of_infix_right (ih h)

theorem Level.infix_entry {l : Level} (h : t ∈ l.query.fromList) : t.parts <:+: l.parts d := by
  obtain ⟨outer, ctes, distinct, whole, selections, table, joins, filter, groups, order, page⟩ := l
  refine List.infix_append_of_infix_right (List.infix_cons ?_)
  refine List.infix_append_of_infix_right (List.infix_cons ?_)
  iterate 4 refine List.infix_append_of_infix_left ?_
  rcases List.mem_cons.mp h with rfl | h
  case inl => exact List.infix_append_left
  case inr => exact List.infix_append_of_infix_right (Join.infix_entry h)

namespace Query

variable {q : Query}

theorem around (q : Query) : Around q.scopes q.levels := by
  cases q
  case select q => exact q.around []
  case insert q => exact (Cte.around_all [] q.ctes).append (Expr.around_all [] q.cells)
  case update q =>
    have hc := (Cte.around_all [] q.ctes).mono (List.nil_subset [[q.table]])
    exact (hc.append (Expr.around_all _ _)).append (Clause.around_all _ q.filter)
  case delete q =>
    have hc := (Cte.around_all [] q.ctes).mono (List.nil_subset [[q.table]])
    exact hc.append (Clause.around_all _ q.filter)

theorem infix_table (hb : q.Begins) (h : t ∈ q.scopes.flatten) : t.parts <:+: q.parts d := by
  cases q
  case select q => cases h
  case insert q => cases h
  case update q =>
    obtain rfl : t = q.table := by simpa [scopes] using h
    have hs : ¬q.sets.isEmpty = true := fun hs => hb (List.isEmpty_iff.mp hs)
    rw [parts, Update.parts, if_neg hs]
    exact List.infix_append_of_infix_right (List.infix_cons List.infix_append_left)
  case delete q =>
    obtain rfl : t = q.table := by simpa [scopes] using h
    exact List.infix_append_of_infix_right (List.infix_cons List.infix_append_left)

-- Every table that a column of a query sees is written there as an entry of a from-list.
theorem infix_entry (hb : q.Begins) {scopes : List Scope}
    (hs : scopes = q.scopes ∨ ∃ l ∈ q.levels, l.scopes = scopes) (h : t ∈ scopes.flatten) :
    t.parts <:+: q.parts d := by
  rcases hs with rfl | ⟨l, hl, rfl⟩
  case inl => exact infix_table hb h
  case inr =>
    rcases List.mem_append.mp h with ht | ht
    case inl => exact (Level.infix_entry ht).trans (infix_parts hb hl)
    case inr =>
      obtain ⟨s, hs, ht⟩ := List.mem_flatten.mp ht
      rcases q.around l hl s hs with hs | ⟨m, hm, rfl⟩
      case inl => exact infix_table hb (List.mem_flatten.mpr ⟨s, hs, ht⟩)
      case inr => exact (Level.infix_entry ht).trans (infix_parts hb hm)

end Query

end SqlBuilder.Sql
