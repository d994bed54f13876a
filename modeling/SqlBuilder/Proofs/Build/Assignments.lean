import SqlBuilder.Build.Plan
import SqlBuilder.Proofs.Sql.Part
/-!
Assignments that are set one after the other. Whatever is set in between, a column stands where it was set
first and has the value that it was set to last.
-/
namespace SqlBuilder.Sql.Assignments

variable {as bs : Assignments} {column other : String} {e f : Expr}

def columns (as : Assignments) : List String := as.map Prod.fst

theorem columns_cons (a : String × Expr) : columns (a :: as) = a.1 :: as.columns := rfl

theorem columns_set : (as.set column e).columns =
    if column ∈ as.columns then as.columns else as.columns ++ [column] := by
  induction as with
  | nil => rfl
  | cons a as ih =>
    by_cases h : a.1 = column
    · simp [set, columns_cons, h]
    · simp only [set, h, if_false, columns_cons, ih, List.mem_cons, Ne.symm h, false_or]
      split <;> simp

theorem mem_columns_set : other ∈ (as.set column e).columns ↔ other ∈ as.columns ∨ other = column := by
  rw [columns_set]
  split <;> simp_all

theorem nodup_columns_set (h : as.columns.Nodup) : (as.set column e).columns.Nodup := by
  rw [columns_set]
  split
  case isTrue => exact h
  case isFalse hn => exact List.nodup_append.mpr ⟨h, by simp, by grind⟩

theorem get?_cons (a : String × Expr) :
    get? (a :: as) column = if a.1 = column then some a.2 else as.get? column := by
  by_cases h : a.1 = column <;> simp [get?, h]

theorem get?_set : (as.set column e).get? other = if column = other then some e else as.get? other := by
  induction as with
  | nil => exact get?_cons (column, e)
  | cons a as ih =>
    by_cases h : a.1 = column
    · simp only [set, h, if_true, get?_cons]
      grind
    · simp only [set, h, if_false, get?_cons, ih]
      grind

theorem set_set : (as.set column e).set column f = as.set column f := by
  induction as with
  | nil => simp [set]
  | cons a as ih => by_cases h : a.1 = column <;> simp [set, h, ih]

-- A column that stands already keeps its place, whatever is set before it is set again.
theorem set_comm (h : column ∈ as.columns) (hne : column ≠ other) :
    (as.set column e).set other f = (as.set other f).set column e := by
  induction as with
  | nil => simp [columns] at h
  | cons a as ih =>
    by_cases hc : a.1 = column
    · simp [set, hc, hne]
    · have hm : column ∈ columns as := (List.mem_cons.mp h).resolve_left (Ne.symm hc)
      by_cases ho : a.1 = other
      · simp [set, ho, Ne.symm hne]
      · simp [set, hc, ho, ih hm]

theorem get?_eq_none (h : column ∉ as.columns) : as.get? column = none := by
  simp only [get?, Option.map_eq_none_iff, List.find?_eq_none, decide_eq_true_eq]
  rintro a ha rfl
  exact h (List.mem_map_of_mem ha)

-- Assignments of each column once are told apart by their columns and what these are set to.
theorem eq_of_columns_eq (ha : as.columns.Nodup) (hc : as.columns = bs.columns)
    (hg : ∀ column, as.get? column = bs.get? column) : as = bs := by
  induction as generalizing bs with
  | nil => exact (List.map_eq_nil_iff.mp hc.symm).symm
  | cons a as ih =>
    obtain _ | ⟨b, bs⟩ := bs
    · exact absurd hc (by simp [columns])
    obtain ⟨hab, htail⟩ : a.1 = b.1 ∧ columns as = columns bs := List.cons.inj hc
    obtain ⟨hn, ha⟩ := List.nodup_cons.mp ha
    have he : a.2 = b.2 := by
      have := hg a.1
      rw [get?_cons, get?_cons, if_pos rfl, if_pos hab.symm] at this
      exact Option.some.inj this
    have hrest : as = bs := ih ha htail fun column => by
      by_cases hc : a.1 = column
      · have hm : column ∉ columns as := hc ▸ hn
        rw [get?_eq_none hm, get?_eq_none (htail ▸ hm)]
      · have := hg column
        rwa [get?_cons, get?_cons, if_neg hc, if_neg (hab ▸ hc)] at this
    rw [Prod.ext hab he, hrest]

-- Sets columns one after the other.
def setAll (as : Assignments) (sets : List (String × Expr)) : Assignments :=
  sets.foldl (fun as (column, e) => as.set column e) as

theorem setAll_cons (s : String × Expr) (sets : List (String × Expr)) :
    as.setAll (s :: sets) = (as.set s.1 s.2).setAll sets := rfl

theorem setAll_append (sets others : List (String × Expr)) :
    as.setAll (sets ++ others) = (as.setAll sets).setAll others := List.foldl_append

theorem set_setAll (h : column ∈ as.columns) (hn : column ∉ bs.columns) :
    (as.setAll bs).set column e = (as.set column e).setAll bs := by
  induction bs generalizing as with
  | nil => rfl
  | cons b bs ih =>
    obtain ⟨hb, hbs⟩ := not_or.mp (mt List.mem_cons.mpr hn)
    have hm : column ∈ (as.set b.1 b.2).columns := mem_columns_set.mpr (.inl h)
    rw [setAll_cons, ih hm hbs, ← set_comm h hb, setAll_cons]

theorem setAll_set (h : bs.columns.Nodup) : as.setAll (bs.set column e) = (as.setAll bs).set column e := by
  induction bs generalizing as with
  | nil => rfl
  | cons b bs ih =>
    obtain ⟨hn, hbs⟩ := List.nodup_cons.mp h
    by_cases hb : b.1 = column
    · have hm : column ∈ (as.set column b.2).columns := mem_columns_set.mpr (.inr rfl)
      have hset : set (b :: bs) column e = (column, e) :: bs := by simp [set, hb]
      rw [hset, setAll_cons, setAll_cons, hb, set_setAll hm (hb ▸ hn), set_set]
    · have hset : set (b :: bs) column e = b :: set bs column e := by simp [set, hb]
      rw [hset, setAll_cons, setAll_cons, ih hbs]

end SqlBuilder.Sql.Assignments

namespace SqlBuilder.Build

open Sql Sql.Assignments

variable {sets others : List (String × Expr)} {column : String}

-- The value of the last call that sets the column.
def lastValue? (sets : List (String × Expr)) (column : String) : Option Expr :=
  Assignments.get? sets.reverse column

theorem nodup_columns_assignments : (assignments sets).columns.Nodup :=
  List.foldlRecOn (motive := fun as : Assignments => as.columns.Nodup) sets _ List.nodup_nil
    fun _ h _ _ => nodup_columns_set h

theorem assignments_append_singleton (s : String × Expr) :
    assignments (sets ++ [s]) = (assignments sets).set s.1 s.2 := by
  simp [assignments, List.foldl_append]

theorem columns_assignments : (assignments sets).columns = (sets.map Prod.fst).eraseDups := by
  induction sets using List.reverseRecOn with
  | nil => rfl
  | append_singleton sets s ih =>
    rw [assignments_append_singleton, columns_set, ih, List.map_append, List.map_singleton, eraseDups_concat]
    simp only [List.mem_eraseDups]

theorem get?_assignments : (assignments sets).get? column = lastValue? sets column := by
  induction sets using List.reverseRecOn with
  | nil => rfl
  | append_singleton sets s ih =>
    rw [assignments_append_singleton, get?_set, ih, lastValue?, lastValue?, List.reverse_append,
      List.reverse_singleton, List.singleton_append, get?_cons]

theorem assignments_eq (hc : (sets.map Prod.fst).eraseDups = (others.map Prod.fst).eraseDups)
    (hv : ∀ column, lastValue? sets column = lastValue? others column) :
    assignments sets = assignments others := by
  refine eq_of_columns_eq nodup_columns_assignments ?_ fun column => ?_
  · rw [columns_assignments, columns_assignments, hc]
  · rw [get?_assignments, get?_assignments, hv]

-- Setting columns does no more than setting each of them once, in the order of the first calls and to the
-- values of the last.
theorem setAll_assignments (as : Assignments) : as.setAll (assignments sets) = as.setAll sets := by
  induction sets using List.reverseRecOn with
  | nil => rfl
  | append_singleton sets s ih =>
    rw [assignments_append_singleton, setAll_set nodup_columns_assignments, ih, setAll_append]
    rfl

end SqlBuilder.Build
