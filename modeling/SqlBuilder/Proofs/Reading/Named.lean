import SqlBuilder.Proofs.Derive.RowBuilder
import SqlBuilder.Proofs.Reading.Positional
/-!
Records that are read from rows by the names of their columns. Their cells are taken out of the row one after the
other, and still each field is what the first cell of its column in the whole row is read as. So no other cells
matter, nor the order of cells with different names.
-/
namespace SqlBuilder

namespace Row

variable {r s : Row} {f : String × FieldType} {name other : String} {v : Value} {e : Error}
  {as bs : List (String × Value)} {columns : List String}

def names (r : Row) : List String := r.cells.map Prod.fst

theorem get?_cons (c : String × Value) (cells : List (String × Value)) :
    get? ⟨c :: cells⟩ name = if c.1 = name then some c.2 else get? ⟨cells⟩ name := by
  by_cases h : c.1 = name <;> simp [get?, h]

theorem get?_append : get? ⟨as ++ bs⟩ name = (get? ⟨as⟩ name).or (get? ⟨bs⟩ name) := by
  simp [get?, List.find?_append, Option.map_or]

theorem get?_eq_none_iff : r.get? name = none ↔ name ∉ r.names := by
  simp only [get?, names, Option.map_eq_none_iff, List.find?_eq_none, List.mem_map, decide_eq_true_eq, not_exists,
    not_and]

theorem get?_eq_head? : r.get? name = (r.cells.filter (·.1 = name)).head?.map Prod.snd := by
  rw [List.head?_filter, get?]

theorem get?_of_mem (hn : r.names.Nodup) (hm : (name, v) ∈ r.cells) : r.get? name = some v := by
  obtain ⟨as, bs, h⟩ := List.append_of_mem hm
  have hname : name ∉ names ⟨as⟩ := by
    rw [names, h, List.map_append, List.map_cons] at hn
    exact fun ha => (List.nodup_append.mp hn).2.2 name ha name List.mem_cons_self rfl
  have hr : r = ⟨as ++ (name, v) :: bs⟩ := congrArg Row.mk h
  rw [hr, get?_append, get?_eq_none_iff.mpr hname, get?_cons, if_pos rfl, Option.none_or]

theorem get?_remove_of_ne (h : other ≠ name) : (r.remove name).get? other = r.get? other := by
  obtain ⟨cells⟩ := r
  induction cells with
  | nil => rfl
  | cons c cells ih =>
    by_cases hc : c.1 = name
    · simp [remove, get?_cons, hc, Ne.symm h]
    · have hcons : remove ⟨c :: cells⟩ name = ⟨c :: (remove ⟨cells⟩ name).cells⟩ := by simp [remove, hc]
      rw [hcons, get?_cons, get?_cons, ih]

theorem get?_insert_of_ne (h : name ≠ other) : get? ⟨as ++ (name, v) :: bs⟩ other = get? ⟨as ++ bs⟩ other := by
  rw [get?_append, get?_cons, if_neg h, get?_append]

theorem get?_insert_of_mem (h : name ∈ as.map Prod.fst) :
    get? ⟨as ++ (name, v) :: bs⟩ other = get? ⟨as ++ bs⟩ other := by
  by_cases hn : name = other
  case neg => exact get?_insert_of_ne hn
  case pos =>
    obtain ⟨w, hw⟩ := Option.ne_none_iff_exists'.mp (mt get?_eq_none_iff.mp (not_not_intro (hn ▸ h)))
    rw [get?_append, get?_append, hw, Option.some_or, Option.some_or]

-- A row with more cells that a record of these columns does not see: cells of other columns, and cells that stand
-- behind another one of their name.
inductive Extends (columns : List String) (r : Row) : Row → Prop
  | refl : Extends columns r r
  | foreign {as bs : List (String × Value)} {name : String} {v : Value} :
    name ∉ columns → Extends columns r ⟨as ++ bs⟩ → Extends columns r ⟨as ++ (name, v) :: bs⟩
  | later {as bs : List (String × Value)} {name : String} {v : Value} :
    name ∈ as.map Prod.fst → Extends columns r ⟨as ++ bs⟩ → Extends columns r ⟨as ++ (name, v) :: bs⟩

theorem Extends.get?_eq (h : Extends columns r s) (hm : other ∈ columns) : s.get? other = r.get? other := by
  induction h with
  | refl => rfl
  | foreign hn _ ih => exact (get?_insert_of_ne (ne_of_mem_of_not_mem hm hn).symm).trans ih
  | later hn _ ih => exact (get?_insert_of_mem hn).trans ih

-- A row with its cells in another order that keeps those of one name in theirs.
def Rearranges (r s : Row) : Prop := ∀ name, s.cells.filter (·.1 = name) = r.cells.filter (·.1 = name)

theorem Rearranges.get?_eq (h : Rearranges r s) : s.get? name = r.get? name := by
  rw [get?_eq_head?, get?_eq_head?, h]

-- A field, given as its column and its type, is read from the first cell of its column.
def Reads (r : Row) (f : String × FieldType) (x : f.2.Carrier) : Prop :=
  ∃ v, r.get? f.1 = some v ∧ f.2.decode v = .ok x

def CanRead (r : Row) (f : String × FieldType) : Prop := ∃ x, r.Reads f x

-- Why a field cannot be read.
inductive Refuses (r : Row) (f : String × FieldType) : Error → Prop
  | missing : r.get? f.1 = none → Refuses r f (.decode f.1 "column not found in row")
  | mismatch {v : Value} {m : Mismatch} : r.get? f.1 = some v → f.2.decode v = .error m →
    Refuses r f (.decode f.1 m.message)

-- What a field is read as if nothing was taken out of the row before.
def look (r : Row) (f : String × FieldType) : Except Error f.2.Carrier := (r.take f.2 f.1).1

theorem look_of_missing (h : r.get? f.1 = none) : r.look f = .error (.decode f.1 "column not found in row") := by
  rw [look, take, h]

theorem look_of_found (h : r.get? f.1 = some v) : r.look f = (f.2.decode v).mapError (decodeError f.1) := by
  rw [look, take, h]

theorem look_congr (h : r.get? f.1 = s.get? f.1) : r.look f = s.look f := by
  cases hv : r.get? f.1 with
  | none => rw [look_of_missing hv, look_of_missing (h ▸ hv)]
  | some v => rw [look_of_found hv, look_of_found (h ▸ hv)]

theorem look_eq_ok_iff {x : f.2.Carrier} : r.look f = .ok x ↔ r.Reads f x := by
  cases hv : r.get? f.1 with
  | none => simp [look_of_missing hv, Reads, hv]
  | some v => simp [look_of_found hv, mapError_eq_ok_iff, Reads, hv]

theorem canRead_iff : r.CanRead f ↔ ∃ x, r.look f = .ok x := exists_congr fun _ => look_eq_ok_iff.symm

theorem look_eq_error_iff : r.look f = .error e ↔ r.Refuses f e := by
  constructor
  case mp =>
    intro h
    cases hv : r.get? f.1 with
    | none => exact Except.error.inj ((look_of_missing hv).symm.trans h) ▸ .missing hv
    | some v =>
      rw [look_of_found hv, mapError_eq_error_iff] at h
      obtain ⟨m, hd, rfl⟩ := h
      exact .mismatch hv hd
  case mpr =>
    rintro (hv | ⟨hv, hd⟩)
    case missing => exact look_of_missing hv
    case mismatch => exact (look_of_found hv).trans (mapError_eq_error_iff.mpr ⟨_, hd, rfl⟩)

end Row

namespace Layout

variable {fields : List (String × FieldType)} {r s : Row} {e : Error}

-- The field of a record at a position.
def Named.get :
    (fields : List (String × FieldType)) → Named fields → (i : Fin fields.length) → fields[i].2.Carrier
  | (_, _) :: _, (x, _), ⟨0, _⟩ => x
  | (_, _) :: fields, (_, xs), ⟨i + 1, h⟩ => get fields xs ⟨i, Nat.lt_of_succ_lt_succ h⟩

-- Each field looked for in the row as it is at the start.
def lookNamed : (fields : List (String × FieldType)) → Row → Except Error (Named fields)
  | [], _ => .ok ()
  | (name, t) :: fields, r => both (r.look (name, t)) (lookNamed fields r)

theorem lookNamed_congr (h : ∀ name ∈ fields.map Prod.fst, r.get? name = s.get? name) :
    lookNamed fields r = lookNamed fields s := by
  induction fields with
  | nil => rfl
  | cons f fields ih =>
    obtain ⟨hf, hfields⟩ := List.forall_mem_cons.mp h
    rw [lookNamed, lookNamed, Row.look_congr hf, ih hfields]

theorem readNamed_cons (name : String) (t : FieldType) (fields : List (String × FieldType)) (r : Row) :
    readNamed ((name, t) :: fields) r = both (r.look (name, t)) (readNamed fields (r.remove name)) := by
  cases hv : r.get? name with
  | none =>
    rw [Row.look_of_missing hv, readNamed, Row.take, hv]
    rfl
  | some v =>
    have hlook : r.look (name, t) = (t.decode v).mapError (Row.decodeError name) := Row.look_of_found hv
    rw [hlook, readNamed, Row.take, hv]
    dsimp only
    cases t.decode v <;> rfl

-- What is taken out of the row for a field is not what a later field is looked for.
theorem readNamed_eq (hn : (fields.map Prod.fst).Nodup) : readNamed fields r = lookNamed fields r := by
  induction fields generalizing r with
  | nil => rfl
  | cons f fields ih =>
    obtain ⟨name, t⟩ := f
    obtain ⟨hname, hn⟩ := List.nodup_cons.mp hn
    have hrest : lookNamed fields (r.remove name) = lookNamed fields r :=
      lookNamed_congr fun other ho => Row.get?_remove_of_ne fun he => hname (he ▸ ho)
    rw [readNamed_cons, lookNamed, ih hn, hrest]

theorem lookNamed_eq_ok_iff {x : Named fields} :
    lookNamed fields r = .ok x ↔ ∀ i : Fin fields.length, r.Reads fields[i] (x.get fields i) := by
  induction fields with
  | nil => exact iff_of_true rfl fun i => i.elim0
  | cons f fields ih =>
    obtain ⟨name, t⟩ := f
    obtain ⟨y, ys⟩ := x
    have hsplit : (∀ i : Fin (fields.length + 1),
        r.Reads ((name, t) :: fields)[i] (Named.get ((name, t) :: fields) (y, ys) i)) ↔
        r.Reads (name, t) y ∧ ∀ i : Fin fields.length, r.Reads fields[i] (ys.get fields i) := Fin.forall_fin_succ
    rw [lookNamed]
    exact both_eq_ok_iff.trans ((and_congr Row.look_eq_ok_iff ih).trans hsplit.symm)

theorem lookNamed_eq_error_iff : lookNamed fields r = .error e ↔
    ∃ i : Fin fields.length, (∀ j < i, r.CanRead fields[j]) ∧ r.Refuses fields[i] e := by
  induction fields with
  | nil => exact iff_of_false (nofun) fun ⟨i, _⟩ => i.elim0
  | cons f fields ih =>
    have hsplit : (∃ i : Fin (fields.length + 1), (∀ j < i, r.CanRead (f :: fields)[j]) ∧
          r.Refuses (f :: fields)[i] e) ↔
        r.Refuses f e ∨ r.CanRead f ∧
          ∃ i : Fin fields.length, (∀ j < i, r.CanRead fields[j]) ∧ r.Refuses fields[i] e := by
      simp [Fin.exists_fin_succ, Fin.forall_fin_succ, and_assoc]
    obtain ⟨name, t⟩ := f
    refine Iff.trans ?_ hsplit.symm
    rw [← ih, ← Row.look_eq_error_iff, Row.canRead_iff, lookNamed]
    exact both_eq_error_iff

theorem exists_lookNamed_eq_ok_iff : (∃ x, lookNamed fields r = .ok x) ↔ ∀ f ∈ fields, r.CanRead f := by
  constructor
  case mp =>
    rintro ⟨x, hx⟩ f hf
    obtain ⟨i, hi, rfl⟩ := List.getElem_of_mem hf
    exact ⟨_, lookNamed_eq_ok_iff.mp hx ⟨i, hi⟩⟩
  case mpr =>
    intro h
    cases hl : lookNamed fields r with
    | ok x => exact ⟨x, rfl⟩
    | error e =>
      obtain ⟨i, -, hi⟩ := lookNamed_eq_error_iff.mp hl
      obtain ⟨x, hx⟩ := Row.canRead_iff.mp (h _ (List.getElem_mem i.isLt))
      cases hx.symm.trans (Row.look_eq_error_iff.mpr hi)

theorem length_encodeNamed (x : Named fields) : (encodeNamed fields x).length = fields.length := by
  induction fields with
  | nil => rfl
  | cons f fields ih => exact congrArg (· + 1) (ih x.2)

-- What the fields of a record are written as, each under its column.
def cells (fields : List (String × FieldType)) (x : Named fields) : List (String × Value) :=
  (fields.map Prod.fst).zip (encodeNamed fields x)

theorem names_cells (x : Named fields) : (cells fields x).map Prod.fst = fields.map Prod.fst :=
  List.map_fst_zip (Nat.le_of_eq (by rw [length_encodeNamed, List.length_map]))

theorem mem_cells (x : Named fields) (i : Fin fields.length) :
    (fields[i].1, fields[i].2.encode (x.get fields i)) ∈ cells fields x := by
  induction fields with
  | nil => exact i.elim0
  | cons f fields ih =>
    cases i using Fin.cases with
    | zero => exact List.mem_cons_self
    | succ i => exact List.mem_cons_of_mem _ (ih x.2 i)

-- What reading records with these fields comes to.
structure ByName (fields : List (String × FieldType)) : Prop where
  reads : ∀ r, (∃ x, (named fields).read r = .ok x) ↔ ∀ f ∈ fields, r.CanRead f
  holds : ∀ r (x : Named fields),
    (named fields).read r = .ok x ↔ ∀ i : Fin fields.length, r.Reads fields[i] (x.get fields i)
  -- The error is that of the first field that cannot be read.
  fails : ∀ r e, (named fields).read r = .error e ↔
    ∃ i : Fin fields.length, (∀ j < i, r.CanRead fields[j]) ∧ r.Refuses fields[i] e
  extended : ∀ r s, r.Extends (fields.map Prod.fst) s → (named fields).read s = (named fields).read r
  rearranged : ∀ r s, r.Rearranges s → (named fields).read s = (named fields).read r
  -- What is written under the columns is read again, in whatever order the cells are.
  returns : ∀ x : Named fields,
    (∀ i : Fin fields.length, fields[i].2.decode (fields[i].2.encode (x.get fields i)) = .ok (x.get fields i)) →
    ∀ r : Row, r.cells.Perm (cells fields x) → (named fields).read r = .ok x

theorem byName (hn : (fields.map Prod.fst).Nodup) : ByName fields := by
  have hread (r : Row) : (named fields).read r = lookNamed fields r := readNamed_eq hn
  constructor
  case reads => exact fun r => hread r ▸ exists_lookNamed_eq_ok_iff
  case holds => exact fun r x => hread r ▸ lookNamed_eq_ok_iff
  case fails => exact fun r e => hread r ▸ lookNamed_eq_error_iff
  case extended =>
    intro r s h
    rw [hread, hread, lookNamed_congr fun _ => h.get?_eq]
  case rearranged =>
    intro r s h
    rw [hread, hread, lookNamed_congr fun _ _ => h.get?_eq]
  case returns =>
    intro x hx r hp
    have hnames : r.names.Nodup := by
      rw [Row.names, (hp.map Prod.fst).nodup_iff, names_cells]
      exact hn
    have hreads (i : Fin fields.length) : r.Reads fields[i] (x.get fields i) :=
      ⟨_, Row.get?_of_mem hnames (hp.mem_iff.mpr (mem_cells x i)), hx i⟩
    exact (hread r).trans (lookNamed_eq_ok_iff.mpr hreads)

end Layout

def FieldType.isOptional : FieldType → Bool
  | optional _ => true
  | _ => false

namespace Derive

open Layout

variable {definition : Definition FieldType} {isOptional : FieldType → Bool} {name : Option String}
  {t : Table FieldType}

-- Rows of a derived table are read field by field in the order of declaration, each from the first cell of its
-- column, and by nothing but the names.
theorem Definition.records_read_by_name (ht : definition.table isOptional name = .ok t) (hc : t.columns.Nodup) :
    ∃ items, definition.body = .fields items ∧ t.columns = items.map FieldDefinition.column ∧
      t.layout = .named (items.map fun f => (f.column, f.type)) ∧
      ByName (items.map fun f => (f.column, f.type)) := by
  obtain ⟨items, hbody, hfields⟩ := Definition.table_eq_ok ht
  have hcolumns : t.columns = items.map FieldDefinition.column := by
    rw [Table.columns, hfields, List.map_map]
    rfl
  have hlayout : t.layout = .named (items.map fun f => (f.column, f.type)) := by
    rw [Table.layout, hfields, List.map_map]
    rfl
  have hnames : (items.map fun f => (f.column, f.type)).map Prod.fst = items.map FieldDefinition.column := by
    rw [List.map_map]
    rfl
  exact ⟨items, hbody, hcolumns, hlayout, byName (hnames ▸ hcolumns ▸ hc)⟩

def sightingItems : List (FieldDefinition FieldType) :=
  [⟨"id", .i64, [.generated], none⟩, ⟨"owner", .i32, [], some "owner_id"⟩, ⟨"r#type", .optional .string, [], none⟩]

def sightingDefinition : Definition FieldType := ⟨"Sighting", false, .fields sightingItems⟩

def sightingTable : Table FieldType := ⟨"sighting", [⟨"id", "id", .i64, .optional⟩,
  ⟨"owner", "owner_id", .i32, .required⟩, ⟨"r#type", "type", .optional .string, .optional⟩]⟩

-- A row of two joined tables, both of which have an `id`.
def joinedSighting : Row :=
  ⟨[("name", .string "Rex"), ("owner_id", .i64 7), ("id", .i32 1), ("id", .string "other"), ("type", .null)]⟩

theorem sighting_read_by_name :
    sightingDefinition.table FieldType.isOptional (some "sighting") = .ok sightingTable ∧
    sightingTable.columns.Nodup ∧
    sightingTable.layout.read joinedSighting = .ok ((1 : Int64), (7 : Int32), (none : Option String), ()) ∧
    sightingTable.layout.read ⟨[("id", .i32 1), ("owner", .i64 7)]⟩ =
      .error (.decode "owner_id" "column not found in row") := by
  have ht : sightingDefinition.table FieldType.isOptional (some "sighting") = .ok sightingTable := by rfl
  have hc : sightingTable.columns.Nodup := by decide
  obtain ⟨items, hitems, -, -, byName⟩ := Definition.records_read_by_name ht hc
  cases hitems
  refine ⟨ht, hc, ?found, ?missing⟩
  case found =>
    refine (byName.holds joinedSighting ((1 : Int64), (7 : Int32), (none : Option String), ())).mpr ?_
    exact Fin.forall_fin_succ.mpr ⟨⟨_, rfl, rfl⟩, Fin.forall_fin_succ.mpr ⟨⟨_, rfl, rfl⟩,
      Fin.forall_fin_succ.mpr ⟨⟨_, rfl, rfl⟩, fun i => i.elim0⟩⟩⟩
  case missing =>
    refine (byName.fails _ _).mpr ⟨⟨1, by decide⟩, fun j hj => ?_, .missing rfl⟩
    obtain rfl : j = ⟨0, by decide⟩ := Fin.ext (Nat.lt_one_iff.mp hj)
    exact ⟨(1 : Int64), _, rfl, rfl⟩

end Derive

end SqlBuilder
