import Mathlib.Data.List.Nodup
import SqlBuilder.Derive.Derived
import SqlBuilder.Derive.RowBuilder
import SqlBuilder.Derive.TypeText
import SqlBuilder.Proofs.Build.Assignments
/-!
What can be built with the generated methods of a table. The type of a builder tells which of the required
columns have a value, so that an insert is given all of them and nothing that the database alone writes.
-/
namespace SqlBuilder.Derive

open Sql

variable {τ : Type} {t : Table τ} {f : Field τ} {m : Setter} {states : List ColumnState} {i j count : Nat}
  {as : Assignments} {e : Expr} {calls : List (Setter × Expr)}

theorem mapM_eq_some {α β : Type} {g : α → Option β} {as : List α} {bs : List β}
    (h : as.map g = bs.map some) : as.mapM g = some bs := by
  induction as generalizing bs with
  | nil => simpa using h
  | cons a as ih =>
    obtain _ | ⟨b, bs⟩ := bs
    · exact absurd h (by simp)
    · obtain ⟨hb, hbs⟩ := List.cons.inj h
      simp [List.mapM_cons, hb, ih hbs]

-- A method for a column that may be left out is one for a required column beyond the last.
theorem optionalSetter_eq (count : Nat) (f : Field τ) :
    optionalSetter count f = requiredSetter count count f := by
  have hne {j : Nat} (hj : j ∈ List.range count) : j ≠ count :=
    Nat.ne_of_lt (List.mem_range.mp hj)
  have harguments (s : ColumnState) : (List.range count).map .param = argumentsWith count count s :=
    List.map_congr_left fun j hj => (if_neg (hne hj)).symm
  have hfree : List.range count = (List.range count).filter (· ≠ count) :=
    (List.filter_eq_self.mpr fun j hj => decide_eq_true (hne hj)).symm
  rw [optionalSetter, requiredSetter, ← harguments, ← harguments, ← hfree]

theorem nodup_argumentsWith (count i : Nat) (s : ColumnState) : (argumentsWith count i s).Nodup :=
  List.Nodup.map (fun a b h => by grind) List.nodup_range

theorem idxOf_param (hj : j < count) (hne : j ≠ i) (s : ColumnState) :
    (argumentsWith count i s).idxOf (.param j) = j := by
  have hlen : j < (argumentsWith count i s).length := by simpa [argumentsWith] using hj
  have hget : (argumentsWith count i s)[j] = .param j := by simp [argumentsWith, hne]
  rw [← hget, (nodup_argumentsWith count i s).idxOf_getElem]

theorem map_argument?_requiredSetter (s : ColumnState) :
    (argumentsWith count i s).map ((requiredSetter count i f).argument? states) =
      (List.range count).map fun j => if j = i then some s else states[j]? := by
  rw [argumentsWith, List.map_map]
  refine List.map_congr_left fun j hj => ?_
  have hj := List.mem_range.mp hj
  by_cases hne : j = i
  · simp [hne, Setter.argument?]
  · have hfree : j ∈ (requiredSetter count i f).free := by simp [requiredSetter, hj, hne]
    have hparam : (requiredSetter count i f).param? states j = states[j]? := by
      rw [Setter.param?, if_pos hfree, requiredSetter, idxOf_param hj hne]
    simpa [hne, Setter.argument?] using hparam

-- A method takes a builder whose column is not set and leaves the other columns as they are.
theorem accept?_requiredSetter (hs : states.length = count) :
    (requiredSetter count i f).accept? states =
      if states[i]? = some .set then none else some (states.set i .set) := by
  subst hs
  have hafter : (argumentsWith states.length i .set).mapM
      ((requiredSetter states.length i f).argument? states) = some (states.set i .set) := by
    refine mapM_eq_some ((map_argument?_requiredSetter .set).trans (List.ext_getElem (by simp) ?_))
    intro j h₁ h₂
    have hj : j < states.length := by simpa using h₁
    simp only [List.getElem_map, List.getElem_range, List.getElem_set, List.getElem?_eq_getElem hj]
    grind
  have hbefore : (argumentsWith states.length i .unset).map
      ((requiredSetter states.length i f).argument? states) = states.map some ↔ states[i]? ≠ some .set := by
    rw [map_argument?_requiredSetter]
    constructor
    · intro h hset
      obtain ⟨hi, -⟩ := List.getElem?_eq_some_iff.mp hset
      have := congrArg (·[i]?) h
      simp [hi] at this
      simp_all
    · intro hunset
      refine List.ext_getElem (by simp) fun j h₁ h₂ => ?_
      have hj : j < states.length := by simpa using h₁
      simp only [List.getElem_map, List.getElem_range, List.getElem?_eq_getElem hj]
      split
      case isTrue hji =>
        subst hji
        cases hstate : states[j] <;> simp_all
      case isFalse => rfl
  rw [Setter.accept?]
  change (if (argumentsWith _ i .unset).map _ = _ then (argumentsWith _ i .set).mapM _ else none) = _
  rw [hafter]
  simp only [hbefore]
  split <;> simp_all

theorem mem_setters : m ∈ (rowBuilder t).setters ↔
    (∃ i, ∃ h : i < (t.writtenAs .required).length,
      requiredSetter (t.writtenAs .required).length i (t.writtenAs .required)[i] = m) ∨
    ∃ f ∈ t.writtenAs .optional,
      requiredSetter (t.writtenAs .required).length (t.writtenAs .required).length f = m := by
  simp only [rowBuilder, List.mem_append, List.mem_mapIdx, List.mem_map, optionalSetter_eq]

-- The required columns, in the order of the type's parameters.
def requiredColumns (t : Table τ) : List String := (t.writtenAs .required).map Field.column

theorem nodup_requiredColumns (hc : t.columns.Nodup) : (requiredColumns t).Nodup :=
  hc.sublist (List.filter_sublist.map _)

theorem column_notMem_requiredColumns (hc : t.columns.Nodup) {w : Writing} (hf : f ∈ t.writtenAs w)
    (hw : w ≠ .required) : f.column ∉ requiredColumns t := by
  intro hm
  obtain ⟨g, hg, hgf⟩ := List.mem_map.mp hm
  obtain ⟨hg, hgw⟩ := List.mem_filter.mp hg
  obtain ⟨hf, hfw⟩ := List.mem_filter.mp hf
  have := List.inj_on_of_nodup_map hc hg hf hgf
  simp_all

-- The states that say which required columns are set.
def statesOf (t : Table τ) (as : Assignments) : List ColumnState :=
  (requiredColumns t).map fun c => if c ∈ as.columns then .set else .unset

theorem length_statesOf (t : Table τ) (as : Assignments) :
    (statesOf t as).length = (t.writtenAs .required).length := by simp [statesOf, requiredColumns]

theorem start_eq (t : Table τ) : (rowBuilder t).start = statesOf t [] :=
  (List.eq_replicate_iff.mpr ⟨length_statesOf t [], by simp [statesOf, Assignments.columns]⟩).symm

theorem statesOf_eq_complete :
    statesOf t as = (rowBuilder t).complete ↔ ∀ c ∈ requiredColumns t, c ∈ as.columns := by
  simp [statesOf, rowBuilder, requiredColumns, List.eq_replicate_iff]

theorem statesOf_set_of_notMem {column : String} (h : column ∉ requiredColumns t) :
    statesOf t (as.set column e) = statesOf t as :=
  List.map_congr_left fun c hc => by
    have hne : c ≠ column := fun hcc => h (hcc ▸ hc)
    simp [Assignments.mem_columns_set, hne]

theorem statesOf_set (hc : t.columns.Nodup) (hi : i < (requiredColumns t).length) :
    statesOf t (as.set (requiredColumns t)[i] e) = (statesOf t as).set i .set := by
  refine List.ext_getElem (by simp [statesOf]) fun j h₁ h₂ => ?_
  have hj : j < (requiredColumns t).length := by simpa [statesOf] using h₁
  simp only [statesOf, List.getElem_map, List.getElem_set, Assignments.mem_columns_set,
    (nodup_requiredColumns hc).getElem_inj_iff]
  grind

-- A call sets the state of its column, if that is a required one and is not set yet.
theorem accept?_statesOf (hc : t.columns.Nodup) (hm : m ∈ (rowBuilder t).setters) (as : Assignments) (e : Expr) :
    m.accept? (statesOf t as) =
      if m.column ∈ requiredColumns t ∧ m.column ∈ as.columns then none
      else some (statesOf t (as.set m.column e)) := by
  obtain ⟨i, hi, rfl⟩ | ⟨f, hf, rfl⟩ := mem_setters.mp hm
  · have hi' : i < (requiredColumns t).length := by simpa [requiredColumns] using hi
    have hcolumn : (t.writtenAs .required)[i].column = (requiredColumns t)[i] := by simp [requiredColumns]
    have hset : (statesOf t as)[i]? = some .set ↔ (requiredColumns t)[i] ∈ as.columns := by
      simp [statesOf, hi']
    rw [accept?_requiredSetter (length_statesOf t as), requiredSetter, hcolumn, statesOf_set hc hi']
    simp only [hset, List.getElem_mem, true_and]
  · have hn : f.column ∉ requiredColumns t := column_notMem_requiredColumns hc hf (by decide)
    rw [accept?_requiredSetter (length_statesOf t as), requiredSetter, statesOf_set_of_notMem hn]
    simp [hn, List.set_eq_of_length_le, length_statesOf]

-- The columns that calls set, and what they set them to.
def called (calls : List (Setter × Expr)) : List String := calls.map (·.1.column)

def sets (calls : List (Setter × Expr)) : List (String × Expr) := calls.map fun (m, e) => (m.column, e)

theorem count_columns_set {column c : String} (h : column ∈ as.columns → c ≠ column) (cs : List String) :
    (as.columns ++ column :: cs).count c = ((as.set column e).columns ++ cs).count c := by
  rw [Assignments.columns_set]
  split
  case isTrue hm => simp [Ne.symm (h hm)]
  case isFalse => simp

-- The methods allow all calls but those that set a required column again.
theorem run?_eq_some_iff (hc : t.columns.Nodup) {as : Assignments} (has : as.columns.Nodup)
    {row : PartialRow} : (rowBuilder t).run? ⟨statesOf t as, as⟩ calls = some row ↔
      (∀ c ∈ calls, c.1 ∈ (rowBuilder t).setters) ∧
      (∀ c ∈ requiredColumns t, (as.columns ++ called calls).count c ≤ 1) ∧
      row = ⟨statesOf t (as.setAll (sets calls)), as.setAll (sets calls)⟩ := by
  induction calls generalizing as with
  | nil =>
    have honce : ∀ c ∈ requiredColumns t, (as.columns ++ called []).count c ≤ 1 := fun c _ => by
      simpa [called] using List.nodup_iff_count_le_one.mp has c
    simp only [RowBuilder.run?, Option.some.injEq]
    exact ⟨fun h => ⟨by simp, honce, h.symm⟩, fun h => h.2.2.symm⟩
  | cons call calls ih =>
    obtain ⟨m, e⟩ := call
    rw [RowBuilder.run?, List.forall_mem_cons]
    by_cases hm : m ∈ (rowBuilder t).setters
    · rw [if_pos hm, accept?_statesOf hc hm as e]
      by_cases hagain : m.column ∈ requiredColumns t ∧ m.column ∈ as.columns
      · have htwice : ¬ (as.columns ++ called ((m, e) :: calls)).count m.column ≤ 1 := by
          have := List.count_pos_iff.mpr hagain.2
          simp only [called, List.map_cons, List.count_append, List.count_cons_self]
          omega
        rw [if_pos hagain]
        exact ⟨fun h => absurd h (by simp), fun h => absurd (h.2.1 _ hagain.1) htwice⟩
      · have hcount : ∀ c ∈ requiredColumns t, (as.columns ++ called ((m, e) :: calls)).count c =
            ((as.set m.column e).columns ++ called calls).count c := fun c hr =>
          count_columns_set (fun ha (hcm : c = m.column) => hagain ⟨hcm ▸ hr, ha⟩) _
        rw [if_neg hagain]
        refine (ih (Assignments.nodup_columns_set has)).trans ?_
        simp only [hm, true_and]
        refine and_congr_right fun _ => and_congr_left' (forall₂_congr fun c hr => ?_)
        rw [hcount c hr]
    · simp [hm]

theorem row?_eq_some_iff (hc : t.columns.Nodup) {row : PartialRow} : (rowBuilder t).row? calls = some row ↔
      (∀ c ∈ calls, c.1 ∈ (rowBuilder t).setters) ∧
      (∀ c ∈ requiredColumns t, (called calls).count c ≤ 1) ∧
      row = ⟨statesOf t (Build.assignments (sets calls)), Build.assignments (sets calls)⟩ := by
  have hempty : (Assignments.columns []).Nodup := List.nodup_nil
  rw [RowBuilder.row?, start_eq]
  exact run?_eq_some_iff hc hempty

theorem columns_setters_perm (t : Table τ) :
    ((rowBuilder t).setters.map Setter.column).Perm (t.updatable.map Field.column) := by
  have hcolumns : (rowBuilder t).setters.map Setter.column =
      (t.writtenAs .required ++ t.writtenAs .optional).map Field.column := by
    rw [rowBuilder, List.map_append, List.map_append, List.map_map]
    exact congrArg (· ++ _) (List.ext_getElem (by simp) fun i h₁ h₂ => by simp [requiredSetter])
  have hrequired : t.writtenAs .required = t.updatable.filter (·.writing = .required) := by
    simp only [Table.writtenAs, Table.updatable, List.filter_filter]
    exact List.filter_congr fun f _ => by cases f.writing <;> rfl
  have hoptional : t.writtenAs .optional = t.updatable.filter (fun f => !decide (f.writing = .required)) := by
    simp only [Table.writtenAs, Table.updatable, List.filter_filter]
    exact List.filter_congr fun f _ => by cases f.writing <;> rfl
  rw [hcolumns, hrequired, hoptional]
  exact (List.filter_append_perm _ _).map _

def FieldDefinition.column (f : FieldDefinition τ) : String := f.name.getD (plainIdent f.ident)

theorem FieldDefinition.field_eq_ok {f : FieldDefinition τ} {isOptional : τ → Bool} {g : Field τ}
    (h : f.field isOptional = .ok g) : g = ⟨f.ident, f.column, f.type, f.writing isOptional⟩ := by
  simp only [FieldDefinition.field] at h
  split at h
  case isTrue => contradiction
  case isFalse =>
    split at h
    case isTrue => contradiction
    case isFalse => exact (Except.ok.inj h).symm

theorem mapM_field_eq_ok {isOptional : τ → Bool} {items : List (FieldDefinition τ)} {fields : List (Field τ)}
    (h : items.mapM (FieldDefinition.field · isOptional) = .ok fields) :
    fields = items.map fun f => ⟨f.ident, f.column, f.type, f.writing isOptional⟩ := by
  induction items generalizing fields with
  | nil => exact (Except.ok.inj h).symm
  | cons f items ih =>
    rw [List.mapM_cons] at h
    cases hf : f.field isOptional with
    | error p => simp [hf, bind, Except.bind] at h
    | ok g =>
      cases hi : items.mapM (FieldDefinition.field · isOptional) with
      | error p => simp [hf, hi, bind, Except.bind] at h
      | ok gs =>
        simp [hf, hi, bind, Except.bind, pure, Except.pure] at h
        rw [← h, List.map_cons, FieldDefinition.field_eq_ok hf, ih hi]

theorem Definition.table_eq_ok {definition : Definition τ} {isOptional : τ → Bool} {name : Option String}
    (h : definition.table isOptional name = .ok t) : ∃ items, definition.body = .fields items ∧
      t.fields = items.map fun f => ⟨f.ident, f.column, f.type, f.writing isOptional⟩ := by
  unfold Definition.table at h
  split at h
  case h_4 items hbody =>
    refine ⟨items, hbody, ?_⟩
    -- what is refused ends in an error that is thrown
    have hthrow {α β : Type} (p : List Problem) (g : α → Except (List Problem) β) (b : β) :
        (throw p >>= g) ≠ .ok b := fun h => by contradiction
    dsimp only at h
    split at h
    case isTrue => exact absurd h (hthrow _ _ _)
    split at h
    case isTrue => exact absurd h (hthrow _ _ _)
    split at h
    case isTrue => exact absurd h (hthrow _ _ _)
    cases hf : items.mapM (FieldDefinition.field · isOptional) with
    | error p =>
      rw [hf] at h
      contradiction
    | ok fields =>
      rw [hf] at h
      change (if _ then Except.ok _ else throw _) = _ at h
      split at h
      case isFalse => contradiction
      case isTrue => exact Except.ok.inj h ▸ mapM_field_eq_ok hf
  all_goals contradiction

-- What a builder of `t`, derived from `items`, is after calls.
structure Built (items : List (FieldDefinition τ)) (t : Table τ) (calls : List (Setter × Expr))
    (row : PartialRow) : Prop where
  states : row.states =
    (t.writtenAs .required).map fun f => if f.column ∈ row.assignments.columns then .set else .unset
  once : ∀ f ∈ t.writtenAs .required, (called calls).count f.column ≤ 1
  insertable : (rowBuilder t).finish? row = some row.assignments ↔
    ∀ f ∈ t.writtenAs .required, f.column ∈ called calls
  columns : row.assignments.columns = (called calls).eraseDups
  values : ∀ column, row.assignments.get? column = Build.lastValue? (sets calls) column
  unwritten : ∀ f ∈ items, .generatedAlways ∈ f.flags ∨ .excluded ∈ f.flags →
    f.column ∉ row.assignments.columns

theorem mem_called_of_allowed (h : ∀ c ∈ calls, c.1 ∈ (rowBuilder t).setters) {column : String}
    (hm : column ∈ called calls) : ∃ f ∈ t.updatable, f.column = column := by
  obtain ⟨c, hc, rfl⟩ := List.mem_map.mp hm
  exact List.mem_map.mp ((columns_setters_perm t).mem_iff.mp (List.mem_map_of_mem (h c hc)))

theorem columns_assignments_sets (calls : List (Setter × Expr)) :
    (Build.assignments (sets calls)).columns = (called calls).eraseDups := by
  rw [Build.columns_assignments, sets, called, List.map_map]
  rfl

theorem built_of_row?_eq_some {items : List (FieldDefinition τ)} {isOptional : τ → Bool}
    (ht : t.fields = items.map fun f => ⟨f.ident, f.column, f.type, f.writing isOptional⟩)
    (hc : t.columns.Nodup) {row : PartialRow} (h : (rowBuilder t).row? calls = some row) :
    Built items t calls row := by
  obtain ⟨hsetters, honce, rfl⟩ := (row?_eq_some_iff hc).mp h
  have hrequired {P : String → Prop} :
      (∀ c ∈ requiredColumns t, P c) ↔ ∀ f ∈ t.writtenAs .required, P f.column := List.forall_mem_map
  have hmem (column : String) :
      column ∈ (Build.assignments (sets calls)).columns ↔ column ∈ called calls := by
    rw [columns_assignments_sets, List.mem_eraseDups]
  exact {
    states := by rw [statesOf, requiredColumns, List.map_map]; rfl
    once := hrequired.mp honce
    insertable := by
      simp only [RowBuilder.finish?, statesOf_eq_complete, hmem, ← hrequired]
      simp
    columns := columns_assignments_sets calls
    values := fun column => Build.get?_assignments
    unwritten := fun f hf hflags hm => by
      obtain ⟨g, hg, hcolumn⟩ := mem_called_of_allowed hsetters ((hmem _).mp hm)
      obtain ⟨hgt, hwriting⟩ := List.mem_filter.mp hg
      have hft : (⟨f.ident, f.column, f.type, f.writing isOptional⟩ : Field τ) ∈ t.fields :=
        ht ▸ List.mem_map_of_mem hf
      have heq := List.inj_on_of_nodup_map hc hgt hft hcolumn
      have hnever : f.writing isOptional = .never := if_pos hflags
      simp [heq, hnever] at hwriting }

-- The methods of a derived table allow just the calls that set no required column twice. What is built by them
-- is ready for an insert once each required column is set, and has the columns that were set and no others. The
-- columns with a method are those that an update may set.
theorem Definition.rows_built {definition : Definition τ} {isOptional : τ → Bool} {name : Option String}
    (ht : definition.table isOptional name = .ok t) (hc : t.columns.Nodup) :
    (∀ calls, ((rowBuilder t).row? calls).isSome ↔
      (∀ c ∈ calls, c.1 ∈ (rowBuilder t).setters) ∧
      ∀ f ∈ t.writtenAs .required, (called calls).count f.column ≤ 1) ∧
    (∃ items, definition.body = .fields items ∧
      ∀ calls, ((rowBuilder t).row? calls).isSome →
        ∀ n, ∃ row, (rowBuilder t).row? (calls.take n) = some row ∧ Built items t (calls.take n) row) ∧
    ((rowBuilder t).setters.map Setter.column).Perm (t.updatable.map Field.column) := by
  have hallowed (calls : List (Setter × Expr)) : ((rowBuilder t).row? calls).isSome ↔
      (∀ c ∈ calls, c.1 ∈ (rowBuilder t).setters) ∧
      ∀ f ∈ t.writtenAs .required, (called calls).count f.column ≤ 1 := by
    rw [Option.isSome_iff_exists]
    simp only [row?_eq_some_iff hc, requiredColumns, List.forall_mem_map]
    exact ⟨fun ⟨_, hm, ho, _⟩ => ⟨hm, ho⟩, fun ⟨hm, ho⟩ => ⟨_, hm, ho, rfl⟩⟩
  obtain ⟨items, hbody, hfields⟩ := Definition.table_eq_ok ht
  refine ⟨hallowed, ⟨items, hbody, fun calls hcalls n => ?_⟩, columns_setters_perm t⟩
  obtain ⟨hsetters, honce⟩ := (hallowed calls).mp hcalls
  have htake : ((rowBuilder t).row? (calls.take n)).isSome :=
    (hallowed _).mpr ⟨fun c hc => hsetters c (List.mem_of_mem_take hc), fun f hf =>
      Nat.le_trans (((List.take_sublist n calls).map _).count_le _) (honce f hf)⟩
  obtain ⟨row, hrow⟩ := Option.isSome_iff_exists.mp htake
  exact ⟨row, hrow, built_of_row?_eq_some hfields hc hrow⟩

def bookItems : List (FieldDefinition TypeText) :=
  let word (s : String) : TypeText := ⟨[.leaf (.word s.toList)]⟩
  let optionalText : TypeText := ⟨[.leaf (.word "Option".toList), .group .angle [.leaf (.word "String".toList)]]⟩
  [⟨"id", word "i32", [.generated], none⟩,
    ⟨"r#type", word "String", [], none⟩,
    ⟨"pages", word "i64", [], some "page_count"⟩,
    ⟨"subtitle", optionalText, [], none⟩,
    ⟨"stored", optionalText, [.generatedAlways], none⟩]

def bookDefinition : Definition TypeText := ⟨"Book", false, .fields bookItems⟩

def bookTable : Table TypeText where
  name := "book"
  fields := bookItems.zipWith (fun f (column, writing) => ⟨f.ident, column, f.type, writing⟩)
    [("id", .optional), ("type", .required), ("page_count", .required), ("subtitle", .optional),
      ("stored", .never)]

def bookCalls : List (Setter × Expr) := [
  (optionalSetter 2 bookTable.fields[3], .value .null),
  (requiredSetter 2 1 bookTable.fields[2], .value (.i64 9)),
  (optionalSetter 2 bookTable.fields[3], .value (.string "a tale")),
  (requiredSetter 2 0 bookTable.fields[1], .value (.string "novel"))]

theorem book_row_built :
    bookDefinition.table TypeText.isOptional (some "book") = .ok bookTable ∧ bookTable.columns.Nodup ∧
    ((rowBuilder bookTable).row? (bookCalls ++ [(requiredSetter 2 0 bookTable.fields[1], .value .null)])) = none ∧
    ∃ row, (rowBuilder bookTable).row? bookCalls = some row ∧ Built bookItems bookTable bookCalls row ∧
      row.assignments.columns = ["subtitle", "page_count", "type"] ∧
      (rowBuilder bookTable).finish? row = some row.assignments := by
  have ht : bookDefinition.table TypeText.isOptional (some "book") = .ok bookTable := by rfl
  have hc : bookTable.columns.Nodup := by decide
  obtain ⟨-, ⟨items, hitems, hbuilt⟩, -⟩ := Definition.rows_built ht hc
  cases hitems
  obtain ⟨row, hrow, hb⟩ := hbuilt bookCalls (by decide +kernel) 4
  exact ⟨ht, hc, by rfl, row, hrow, hb, hb.columns.trans (by decide), hb.insertable.mpr (by decide)⟩

end SqlBuilder.Derive
