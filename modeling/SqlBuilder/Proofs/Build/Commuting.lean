import SqlBuilder.Proofs.Build.Assignments
import SqlBuilder.Sql.Compile
/-!
The order of calls on different clauses does not count. Of the calls on a query only the order within each
clause shows, and whether some of them were made while the query was handed to a function does not.
-/
namespace SqlBuilder.Build

open Sql

-- Calls of which each belongs to one clause, in steps that are independent between clauses.
section Folding

variable {σ α κ : Type} [DecidableEq κ] {step : σ → α → σ} {clause : α → κ} {xs ys : List α} {s : σ}

-- The calls on one clause, in their order.
def among (clause : α → κ) (k : κ) (xs : List α) : List α := xs.filter (clause · = k)

def Independent (step : σ → α → σ) (clause : α → κ) (xs : List α) : Prop :=
  ∀ a ∈ xs, ∀ b ∈ xs, clause a ≠ clause b → ∀ s, step (step s a) b = step (step s b) a

omit [DecidableEq κ] in
theorem Independent.filter (h : Independent step clause xs) (p : α → Bool) :
    Independent step clause (xs.filter p) :=
  fun a ha b hb => h a (List.mem_filter.mp ha).1 b (List.mem_filter.mp hb).1

theorem foldl_step_comm {a : α} (h : ∀ b ∈ xs, ∀ s, step (step s a) b = step (step s b) a) :
    xs.foldl step (step s a) = step (xs.foldl step s) a := by
  induction xs generalizing s with
  | nil => rfl
  | cons b xs ih =>
    rw [List.foldl_cons, List.foldl_cons, h b (by simp), ih fun c hc => h c (by simp [hc])]

-- The calls on a clause can all be made before the others.
theorem Independent.foldl_eq (h : Independent step clause xs) (k : κ) :
    xs.foldl step s = (xs.filter (clause · ≠ k)).foldl step ((among clause k xs).foldl step s) := by
  induction xs generalizing s with
  | nil => rfl
  | cons a xs ih =>
    have hxs := ih (s := step s a) fun b hb c hc => h b (by simp [hb]) c (by simp [hc])
    rw [List.foldl_cons, hxs]
    by_cases ha : clause a = k
    · simp [among, ha]
    · have hpast : (among clause k xs).foldl step (step s a) = step ((among clause k xs).foldl step s) a :=
        foldl_step_comm fun b hb => by
          obtain ⟨hm, hk⟩ := List.mem_filter.mp hb
          have hne : clause a ≠ clause b := by simp_all
          exact h a (by simp) b (by simp [hm]) hne
      rw [hpast]
      simp [among, ha]

theorem among_filter_ne (k l : κ) :
    among clause l (xs.filter (clause · ≠ k)) = if l = k then [] else among clause l xs := by
  split
  case isTrue h => simp +contextual [among, h]
  case isFalse h =>
    simp only [among, List.filter_filter]
    exact List.filter_congr fun a _ => by grind

-- Calls do the same if on each clause they do. By induction on the clauses that the calls are on, of which
-- each step makes the calls on one.
theorem Independent.foldl_congr (hx : Independent step clause xs) (hy : Independent step clause ys)
    (same : ∀ k s, (among clause k xs).foldl step s = (among clause k ys).foldl step s) :
    xs.foldl step s = ys.foldl step s := by
  have general (ks : List κ) (hks : ∀ a ∈ xs ++ ys, clause a ∈ ks) : xs.foldl step s = ys.foldl step s := by
    induction ks generalizing xs ys s with
    | nil =>
      have hnil : xs ++ ys = [] := List.eq_nil_iff_forall_not_mem.mpr fun a ha => by simpa using hks a ha
      obtain ⟨rfl, rfl⟩ := List.append_eq_nil_iff.mp hnil
      rfl
    | cons k ks ih =>
      rw [hx.foldl_eq k, hy.foldl_eq k, same k]
      refine ih (hx.filter _) (hy.filter _) (fun l s => ?_) fun a ha => ?_
      · rw [among_filter_ne, among_filter_ne]
        split
        case isTrue => rfl
        case isFalse => exact same l s
      · obtain ⟨hm, hne⟩ := List.mem_filter.mp (List.filter_append .. ▸ ha)
        exact (List.mem_cons.mp (hks a hm)).resolve_left (by simpa using hne)
  exact general ((xs ++ ys).map clause) fun a ha => List.mem_map_of_mem ha

-- Of calls that replace what the ones before did, the last one counts.
theorem foldl_eq_of_getLast? (hx : ∀ a ∈ xs, ∀ b ∈ xs, ∀ s, step (step s a) b = step s b) :
    xs.foldl step s = xs.getLast?.elim s (step s) := by
  induction xs using List.reverseRecOn with
  | nil => rfl
  | append_singleton xs b ih =>
    rw [List.foldl_append, ih fun a ha c hc => hx a (by simp [ha]) c (by simp [hc])]
    simp only [List.getLast?_append, List.getLast?_singleton, Option.some_or, Option.elim_some,
      List.foldl_cons, List.foldl_nil]
    cases h : xs.getLast? with
    | none => rfl
    | some a => exact hx a (by simp [List.mem_of_getLast? h]) b (by simp) s

-- Of calls that all do one thing, it only counts whether there are any.
theorem foldl_eq_of_repeated {a : α} (hx : ∀ b ∈ xs, b = a) (hy : ∀ b ∈ ys, b = a)
    (again : ∀ s, step (step s a) a = step s a) (h : xs = [] ↔ ys = []) :
    xs.foldl step s = ys.foldl step s := by
  have once {zs : List α} (hz : ∀ b ∈ zs, b = a) : zs.foldl step s = if zs = [] then s else step s a := by
    rw [foldl_eq_of_getLast? fun b hb c hc s => by rw [hz b hb, hz c hc, again]]
    obtain rfl | hne := eq_or_ne zs []
    · rfl
    · rw [List.getLast?_eq_some_getLast hne, if_neg hne, hz _ (List.getLast_mem hne)]
      rfl
  rw [once hx, once hy]
  simp only [h]

end Folding

inductive SelectClause where
  | selections | distinct | joins | filters | groups | order | page
  deriving DecidableEq

namespace SelectCall

-- The clause that a call is on. A call that hands the query to a function is on none of its own.
def clause? : SelectCall → Option SelectClause
  | select _ => some .selections
  | distinct => some .distinct
  | join _ _ => some .joins
  | filter _ => some .filters
  | groupBy _ => some .groups
  | orderBy _ => some .order
  | limit _ | offset _ | page _ _ => some .page
  | call _ => none

mutual

-- The calls that a call comes down to, none of which hands the query on.
def inlined : SelectCall → List SelectCall
  | call calls => inlinedAll calls
  | select items => [select items]
  | distinct => [distinct]
  | filter f => [filter f]
  | join table on => [join table on]
  | groupBy operand => [groupBy operand]
  | orderBy order => [orderBy order]
  | limit n => [limit n]
  | offset n => [offset n]
  | page number perPage => [page number perPage]

def inlinedAll : List SelectCall → List SelectCall
  | [] => []
  | c :: cs => inlined c ++ inlinedAll cs

end

mutual

theorem foldl_inlined (q : Select) : (c : SelectCall) → (inlined c).foldl apply q = apply q c
  | call calls => foldl_inlinedAll q calls
  | select _ | distinct | filter _ | join _ _ | groupBy _ | orderBy _ | limit _ | offset _ | page _ _ => rfl

theorem foldl_inlinedAll (q : Select) : (cs : List SelectCall) → (inlinedAll cs).foldl apply q = applyAll q cs
  | [] => rfl
  | c :: cs => by
    rw [inlinedAll, List.foldl_append, foldl_inlined q c, foldl_inlinedAll (apply q c) cs, applyAll]

end

mutual

theorem clause?_of_mem_inlined : (c : SelectCall) → ∀ a ∈ inlined c, (clause? a).isSome
  | call calls => clause?_of_mem_inlinedAll calls
  | select _ | distinct | filter _ | join _ _ | groupBy _ | orderBy _ | limit _ | offset _ | page _ _ => by
    simp [inlined, clause?]

theorem clause?_of_mem_inlinedAll : (cs : List SelectCall) → ∀ a ∈ inlinedAll cs, (clause? a).isSome
  | [] => by simp [inlinedAll]
  | c :: cs => by
    intro a ha
    obtain hc | hcs := List.mem_append.mp ha
    · exact clause?_of_mem_inlined c a hc
    · exact clause?_of_mem_inlinedAll cs a hcs

end

theorem apply_comm {a b : SelectCall} {k l : SelectClause} (ha : clause? a = some k)
    (hb : clause? b = some l) (hkl : k ≠ l) (q : Select) : apply (apply q a) b = apply (apply q b) a := by
  cases a <;> cases b <;> simp_all [clause?, apply]

theorem independent_inlinedAll (cs : List SelectCall) : Independent apply clause? (inlinedAll cs) := by
  intro a ha b hb hne q
  obtain ⟨k, hk⟩ := Option.isSome_iff_exists.mp (clause?_of_mem_inlinedAll cs a ha)
  obtain ⟨l, hl⟩ := Option.isSome_iff_exists.mp (clause?_of_mem_inlinedAll cs b hb)
  exact apply_comm hk hl (fun h => hne (by rw [hk, hl, h])) q

-- Calls that come down to the same ones on each clause, and to `distinct` at least once or not at all.
structure Alike (xs ys : List SelectCall) : Prop where
  calls : ∀ k, k ≠ .distinct →
    among clause? (some k) (inlinedAll xs) = among clause? (some k) (inlinedAll ys)
  distinct : among clause? (some .distinct) (inlinedAll xs) = [] ↔
    among clause? (some .distinct) (inlinedAll ys) = []

theorem eq_distinct_of_mem_among {a : SelectCall} {cs : List SelectCall}
    (h : a ∈ among clause? (some .distinct) cs) : a = distinct := by
  obtain ⟨-, ha⟩ := List.mem_filter.mp h
  cases a <;> simp_all [clause?]

theorem among_none (cs : List SelectCall) : among clause? none (inlinedAll cs) = [] :=
  List.filter_eq_nil_iff.mpr fun a ha hn => by
    have := clause?_of_mem_inlinedAll cs a ha
    simp_all

theorem Alike.applyAll_eq {xs ys : List SelectCall} (h : Alike xs ys) (q : Select) :
    applyAll q xs = applyAll q ys := by
  rw [← foldl_inlinedAll, ← foldl_inlinedAll]
  refine (independent_inlinedAll xs).foldl_congr (independent_inlinedAll ys) fun k q => ?_
  match k with
  | none => rw [among_none, among_none]
  | some k =>
    by_cases hk : k = .distinct
    · subst hk
      exact foldl_eq_of_repeated (fun _ => eq_distinct_of_mem_among) (fun _ => eq_distinct_of_mem_among)
        (fun _ => rfl) h.distinct
    · rw [h.calls k hk]

end SelectCall

inductive UpdateClause where
  | sets | filters
  deriving DecidableEq

namespace UpdateCall

def clause : UpdateCall → UpdateClause
  | set _ _ => .sets
  | filter _ => .filters

def assignment? : UpdateCall → Option (String × Expr)
  | set column e => some (column, e)
  | filter _ => none

-- The columns that the calls set, each as often as it is set.
def sets (cs : List UpdateCall) : List (String × Expr) := cs.filterMap assignment?

theorem independent (cs : List UpdateCall) : Independent apply clause cs := by
  intro a _ b _ hne q
  cases a <;> cases b <;> simp_all [clause, apply]

theorem foldl_among_sets (q : Update) (cs : List UpdateCall) :
    (among clause .sets cs).foldl apply q = { q with sets := q.sets.setAll (sets cs) } := by
  induction cs generalizing q with
  | nil => rfl
  | cons c cs ih =>
    cases c with
    | set column e => exact ih (apply q (.set column e))
    | filter f => exact ih q

-- Calls with the same filters that set the same columns first in the same order, each to the same value last.
structure Alike (xs ys : List UpdateCall) : Prop where
  filters : among clause .filters xs = among clause .filters ys
  columns : ((sets xs).map Prod.fst).eraseDups = ((sets ys).map Prod.fst).eraseDups
  values : ∀ column, lastValue? (sets xs) column = lastValue? (sets ys) column

theorem Alike.foldl_eq {xs ys : List UpdateCall} (h : Alike xs ys) (q : Update) :
    xs.foldl apply q = ys.foldl apply q := by
  refine (independent xs).foldl_congr (independent ys) fun k q => ?_
  cases k with
  | filters => rw [h.filters]
  | sets =>
    rw [foldl_among_sets, foldl_among_sets, ← setAll_assignments, assignments_eq h.columns h.values,
      setAll_assignments]

end UpdateCall

inductive InsertClause where
  | rows | ignore | conflict
  deriving DecidableEq

namespace InsertCall

def clause : InsertCall → InsertClause
  | values _ => .rows
  | ignore => .ignore
  | onConflict _ => .conflict

theorem independent (cs : List InsertCall) : Independent apply clause cs := by
  intro a _ b _ hne q
  cases a <;> cases b <;> simp_all [clause, apply]

-- Calls with the same rows, with `ignore` at least once or not at all, and with the same conflict clause last.
structure Alike (xs ys : List InsertCall) : Prop where
  rows : among clause .rows xs = among clause .rows ys
  ignore : among clause .ignore xs = [] ↔ among clause .ignore ys = []
  conflict : (among clause .conflict xs).getLast? = (among clause .conflict ys).getLast?

theorem eq_ignore_of_mem_among {a : InsertCall} {cs : List InsertCall}
    (h : a ∈ among clause .ignore cs) : a = ignore := by
  obtain ⟨-, ha⟩ := List.mem_filter.mp h
  cases a <;> simp_all [clause]

theorem apply_of_mem_among_conflict {cs : List InsertCall} : ∀ a ∈ among clause .conflict cs,
    ∀ b ∈ among clause .conflict cs, ∀ q, apply (apply q a) b = apply q b := by
  intro a ha b hb q
  obtain ⟨-, ha⟩ := List.mem_filter.mp ha
  obtain ⟨-, hb⟩ := List.mem_filter.mp hb
  cases a <;> cases b <;> simp_all [clause, apply]

theorem Alike.foldl_eq {xs ys : List InsertCall} (h : Alike xs ys) (q : Insert) :
    xs.foldl apply q = ys.foldl apply q := by
  refine (independent xs).foldl_congr (independent ys) fun k q => ?_
  cases k with
  | rows => rw [h.rows]
  | ignore =>
    exact foldl_eq_of_repeated (fun _ => eq_ignore_of_mem_among) (fun _ => eq_ignore_of_mem_among)
      (fun _ => rfl) h.ignore
  | conflict =>
    rw [foldl_eq_of_getLast? apply_of_mem_among_conflict, foldl_eq_of_getLast? apply_of_mem_among_conflict,
      h.conflict]

end InsertCall

namespace Plan

-- Plans for one query that are alike clause by clause, whatever the order of their calls between clauses.
inductive Alike : Plan → Plan → Prop
  | select (q : Select) {xs ys : List SelectCall} (h : SelectCall.Alike xs ys) :
    Alike (.select q xs) (.select q ys)
  | update (q : Update) {xs ys : List UpdateCall} (h : UpdateCall.Alike xs ys) :
    Alike (.update q xs) (.update q ys)
  | insert (q : Insert) {xs ys : List InsertCall} (h : InsertCall.Alike xs ys) :
    Alike (.insert q xs) (.insert q ys)

theorem compile_eq_of_alike {p r : Plan} (h : p.Alike r) (d : Dialect) :
    p.query.compile d = r.query.compile d := by
  cases h with
  | select q h => exact congrArg (Query.compile d ∘ Query.select) (h.applyAll_eq q)
  | update q h => exact congrArg (Query.compile d ∘ Query.update) (h.foldl_eq q)
  | insert q h => exact congrArg (Query.compile d ∘ Query.insert) (h.foldl_eq q)

def shelf : Plan := .select (({} : Creator).select ⟨"book", some "b"⟩ false) [
  .distinct,
  .select [⟨.column ⟨"book", "id"⟩, none⟩],
  .filter (.test .and (.compare (.column ⟨"book", "id"⟩) .gt (.value (.i32 7)))),
  .limit 5,
  .page 2 20,
  .orderBy (.output "id" .desc),
  .distinct,
  .orderBy .random]

-- The calls of `shelf`, some of them made while the query is handed to functions, and one `distinct` fewer.
def shelfAgain : Plan := .select (({} : Creator).select ⟨"book", some "b"⟩ false) [
  .call [.orderBy (.output "id" .desc), .call [.limit 5, .orderBy .random], .page 2 20],
  .filter (.test .and (.compare (.column ⟨"book", "id"⟩) .gt (.value (.i32 7)))),
  .call [],
  .select [⟨.column ⟨"book", "id"⟩, none⟩],
  .distinct]

def retitling : Plan := .update (({} : Creator).update ⟨"book", none⟩) [
  .set "title" (.value (.string "Emma")),
  .filter (.test .and (.compare (.column ⟨"book", "id"⟩) .eq (.value (.i32 7)))),
  .set "pages" (.value (.i32 1)),
  .set "title" (.value .null)]

def retitlingAgain : Plan := .update (({} : Creator).update ⟨"book", none⟩) [
  .set "title" (.value .null),
  .set "pages" (.value (.i32 1)),
  .filter (.test .and (.compare (.column ⟨"book", "id"⟩) .eq (.value (.i32 7))))]

def storing : Plan := .insert (({} : Creator).insert .insert "book") [
  .onConflict (.nothing ["id"]),
  .values [[("id", .value (.i32 7)), ("pages", .value (.i32 1))]],
  .ignore,
  .onConflict (.update ["id"] ["pages"]),
  .values [[("id", .value (.i32 8))]]]

def storingAgain : Plan := .insert (({} : Creator).insert .insert "book") [
  .values [[("id", .value (.i32 7)), ("pages", .value (.i32 1))]],
  .ignore,
  .values [[("id", .value (.i32 8))]],
  .ignore,
  .onConflict (.update ["id"] ["pages"])]

def shelfStatement : Statement where
  sql := "select distinct \"b\".\"id\" from \"book\" as \"b\" where \"b\".\"id\" > $1 order by \"id\" desc, random() limit 20 offset 20"
  params := [.i32 7]
  kind := .select

theorem calls_reordered :
    (shelf.Alike shelfAgain ∧ shelfAgain.query.compile .postgres = .ok shelfStatement) ∧
    (retitling.Alike retitlingAgain ∧ retitling.query.compile .mysql = retitlingAgain.query.compile .mysql) ∧
    storing.Alike storingAgain ∧ storing.query.compile .sqlite = storingAgain.query.compile .sqlite := by
  have hs : shelf.Alike shelfAgain := .select _ {
    calls := by
      intro k hk
      cases k
      case distinct => exact absurd rfl hk
      all_goals rfl
    distinct := by decide }
  have hu : retitling.Alike retitlingAgain := .update _ {
    filters := rfl
    columns := by decide
    values := by
      intro column
      simp only [UpdateCall.sets, UpdateCall.assignment?, lastValue?, List.filterMap_cons,
        List.filterMap_nil, List.reverse_cons, List.reverse_nil, List.nil_append, List.cons_append,
        Assignments.get?_cons]
      grind }
  have hi : storing.Alike storingAgain := .insert _ {
    rows := rfl
    ignore := by decide
    conflict := rfl }
  have h : shelf.query.compile .postgres = .ok shelfStatement := by decide +kernel
  exact ⟨⟨hs, compile_eq_of_alike hs .postgres ▸ h⟩, ⟨hu, compile_eq_of_alike hu .mysql⟩, hi,
    compile_eq_of_alike hi .sqlite⟩

end Plan

end SqlBuilder.Build
