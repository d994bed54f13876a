import SqlBuilder.Row
/-!
Tuples that are read from rows by position. The cells are read from left to right, and the first one that is missing
or cannot be read ends it.
-/
namespace SqlBuilder

namespace Row

variable {r : Row} {i : Nat} {name : String} {c : String × Value} {cells : List (String × Value)} {t : FieldType}
  {e : Error}

theorem mapError_eq_ok_iff {α : Type} {a : Except Mismatch α} {x : α} :
    a.mapError (decodeError name) = .ok x ↔ a = .ok x := by
  cases a with
  | ok y =>
    change Except.ok y = .ok x ↔ _
    simp
  | error m => exact iff_of_false (by intro h; cases h) (by intro h; cases h)

theorem mapError_eq_error_iff {α : Type} {a : Except Mismatch α} :
    a.mapError (decodeError name) = .error e ↔ ∃ m, a = .error m ∧ decodeError name m = e := by
  cases a with
  | ok y => exact iff_of_false (by intro h; cases h) (by rintro ⟨m, h, -⟩; cases h)
  | error m =>
    change Except.error (decodeError name m) = .error e ↔ _
    simp

-- A field of a tuple is read from the cell at its position, whatever the name of the cell.
def ReadsAt (r : Row) (i : Nat) (t : FieldType) (x : t.Carrier) : Prop :=
  ∃ v, r.cells[i]?.map Prod.snd = some v ∧ t.decode v = .ok x

def CanReadAt (r : Row) (i : Nat) (t : FieldType) : Prop := ∃ x, r.ReadsAt i t x

-- Why the field at a position cannot be read. The cell's name is in the error only.
inductive RefusesAt (r : Row) (i : Nat) (t : FieldType) : Error → Prop
  | missing : r.cells[i]? = none → RefusesAt r i t (.decode "?" "row has fewer columns than selections")
  | mismatch {v : Value} {m : Mismatch} (name : String) : r.cells[i]? = some (name, v) → t.decode v = .error m →
    RefusesAt r i t (.decode name m.message)

theorem readsAt_zero {x : t.Carrier} : ReadsAt ⟨c :: cells⟩ 0 t x ↔ t.decode c.2 = .ok x := by
  simp [ReadsAt]

theorem readsAt_succ {x : t.Carrier} : ReadsAt ⟨c :: cells⟩ (i + 1) t x ↔ ReadsAt ⟨cells⟩ i t x := by
  simp [ReadsAt]

theorem canReadAt_zero : CanReadAt ⟨c :: cells⟩ 0 t ↔ ∃ x, t.decode c.2 = .ok x :=
  exists_congr fun _ => readsAt_zero

theorem canReadAt_succ : CanReadAt ⟨c :: cells⟩ (i + 1) t ↔ CanReadAt ⟨cells⟩ i t :=
  exists_congr fun _ => readsAt_succ

theorem refusesAt_zero :
    RefusesAt ⟨c :: cells⟩ 0 t e ↔ ∃ m, t.decode c.2 = .error m ∧ decodeError c.1 m = e := by
  constructor
  case mp =>
    rintro (h | ⟨_, h, hd⟩)
    case missing => cases h
    case mismatch =>
      cases h
      exact ⟨_, hd, rfl⟩
  case mpr =>
    rintro ⟨m, hd, rfl⟩
    exact .mismatch _ rfl hd

theorem refusesAt_succ : RefusesAt ⟨c :: cells⟩ (i + 1) t e ↔ RefusesAt ⟨cells⟩ i t e := by
  constructor
  all_goals
    rintro (h | ⟨name, h, hd⟩)
    case missing => exact .missing h
    case mismatch => exact .mismatch name h hd

theorem refusesAt_nil : RefusesAt ⟨[]⟩ i t e ↔ e = .decode "?" "row has fewer columns than selections" := by
  constructor
  case mp =>
    rintro (h | ⟨_, h, hd⟩)
    case missing => rfl
    case mismatch => cases h
  case mpr =>
    rintro rfl
    exact .missing rfl

theorem not_canReadAt_nil : ¬CanReadAt ⟨[]⟩ i t := fun ⟨_, _, h, _⟩ => nomatch h

theorem CanReadAt.lt_size (h : r.CanReadAt i t) : i < r.size := by
  obtain ⟨x, v, hv, -⟩ := h
  obtain ⟨c, hc, -⟩ := Option.map_eq_some_iff.mp hv
  exact (List.getElem?_eq_some_iff.mp hc).1

theorem CanReadAt.not_refusesAt (h : r.CanReadAt i t) : ¬r.RefusesAt i t e := by
  obtain ⟨x, v, hv, hx⟩ := h
  rintro (hn | ⟨_, hn, hd⟩)
  case missing => simp [hn] at hv
  case mismatch =>
    rw [hn] at hv
    cases hv
    cases hd.symm.trans hx

end Row

namespace Layout

-- Two things read one after the other. The second one is not looked at if the first one fails.
def both {α β : Type} (a : Except Error α) (b : Except Error β) : Except Error (α × β) :=
  match a with
  | .error e => .error e
  | .ok x => b.map (x, ·)

theorem both_eq_ok_iff {α β : Type} {a : Except Error α} {b : Except Error β} {x : α} {y : β} :
    both a b = .ok (x, y) ↔ a = .ok x ∧ b = .ok y := by
  cases a <;> cases b <;> simp [both, Except.map]

theorem both_eq_error_iff {α β : Type} {a : Except Error α} {b : Except Error β} {e : Error} :
    both a b = .error e ↔ a = .error e ∨ (∃ x, a = .ok x) ∧ b = .error e := by
  cases a <;> cases b <;> simp [both, Except.map]

variable {types : List FieldType} {name : String} {v : Value} {cells : List (String × Value)} {r : Row} {e : Error}

-- The field of a tuple at a position.
def Tuple.get : (types : List FieldType) → Tuple types → (i : Fin types.length) → types[i].Carrier
  | _ :: _, (x, _), ⟨0, _⟩ => x
  | _ :: types, (_, xs), ⟨i + 1, h⟩ => get types xs ⟨i, Nat.lt_of_succ_lt_succ h⟩

theorem readTuple_cons (t : FieldType) (types : List FieldType) : readTuple (t :: types) ((name, v) :: cells) =
    both ((t.decode v).mapError (Row.decodeError name)) (readTuple types cells) := by
  rw [readTuple]
  cases t.decode v <;> rfl

theorem readTuple_eq_ok_iff {x : Tuple types} :
    readTuple types cells = .ok x ↔ ∀ i : Fin types.length, Row.ReadsAt ⟨cells⟩ i types[i] (x.get types i) := by
  induction types generalizing cells with
  | nil => exact iff_of_true rfl fun i => i.elim0
  | cons t types ih =>
    obtain ⟨y, ys⟩ := x
    have hsplit : (∀ i : Fin (types.length + 1),
        Row.ReadsAt ⟨cells⟩ i (t :: types)[i] (Tuple.get (t :: types) (y, ys) i)) ↔
        Row.ReadsAt ⟨cells⟩ 0 t y ∧
          ∀ i : Fin types.length, Row.ReadsAt ⟨cells⟩ (i + 1) types[i] (ys.get types i) := Fin.forall_fin_succ
    refine Iff.trans ?_ hsplit.symm
    obtain _ | ⟨⟨name, v⟩, cells⟩ := cells
    case nil => exact iff_of_false (nofun) fun h => Row.not_canReadAt_nil ⟨y, h.1⟩
    case cons =>
      simp only [Row.readsAt_zero, Row.readsAt_succ]
      rw [readTuple_cons, ← ih]
      exact both_eq_ok_iff.trans (and_congr_left' Row.mapError_eq_ok_iff)

theorem readTuple_eq_error_iff : readTuple types cells = .error e ↔
    ∃ i : Fin types.length, (∀ j < i, Row.CanReadAt ⟨cells⟩ j types[j]) ∧ Row.RefusesAt ⟨cells⟩ i types[i] e := by
  induction types generalizing cells with
  | nil => exact iff_of_false (nofun) fun ⟨i, _⟩ => i.elim0
  | cons t types ih =>
    have hsplit : (∃ i : Fin (types.length + 1), (∀ j < i, Row.CanReadAt ⟨cells⟩ j (t :: types)[j]) ∧
          Row.RefusesAt ⟨cells⟩ i (t :: types)[i] e) ↔
        Row.RefusesAt ⟨cells⟩ 0 t e ∨ Row.CanReadAt ⟨cells⟩ 0 t ∧ ∃ i : Fin types.length,
          (∀ j < i, Row.CanReadAt ⟨cells⟩ (j + 1) types[j]) ∧ Row.RefusesAt ⟨cells⟩ (i + 1) types[i] e := by
      simp [Fin.exists_fin_succ, Fin.forall_fin_succ, and_assoc]
    refine Iff.trans ?_ hsplit.symm
    obtain _ | ⟨⟨name, v⟩, cells⟩ := cells
    case nil =>
      rw [Row.refusesAt_nil, readTuple, Except.error.injEq, or_iff_left fun h => Row.not_canReadAt_nil h.1]
      exact eq_comm
    case cons =>
      simp only [Row.refusesAt_zero, Row.refusesAt_succ, Row.canReadAt_zero, Row.canReadAt_succ]
      rw [readTuple_cons, ← ih, ← Row.mapError_eq_error_iff]
      exact both_eq_error_iff.trans (or_congr_right (and_congr_left' (exists_congr fun _ => Row.mapError_eq_ok_iff)))

theorem exists_readTuple_eq_ok_iff : (∃ x, readTuple types r.cells = .ok x) ↔
    types.length ≤ r.size ∧ ∀ i : Fin types.length, r.CanReadAt i types[i] := by
  constructor
  case mp =>
    rintro ⟨x, hx⟩
    have hreads (i : Fin types.length) : r.CanReadAt i types[i] := ⟨_, readTuple_eq_ok_iff.mp hx i⟩
    exact ⟨Nat.le_of_not_lt fun h => Nat.lt_irrefl _ (hreads ⟨r.size, h⟩).lt_size, hreads⟩
  case mpr =>
    rintro ⟨-, hreads⟩
    cases hx : readTuple types r.cells with
    | ok x => exact ⟨x, rfl⟩
    | error e =>
      obtain ⟨i, -, hi⟩ := readTuple_eq_error_iff.mp hx
      exact absurd hi (hreads i).not_refusesAt

-- What reading tuples with fields of these types comes to.
structure ByPosition (types : List FieldType) : Prop where
  reads : ∀ r, (∃ x, (positional types).read r = .ok x) ↔
    types.length ≤ r.size ∧ ∀ i : Fin types.length, r.CanReadAt i types[i]
  holds : ∀ r (x : Tuple types),
    (positional types).read r = .ok x ↔ ∀ i : Fin types.length, r.ReadsAt i types[i] (x.get types i)
  -- The error is that of the leftmost field that cannot be read.
  fails : ∀ r e, (positional types).read r = .error e ↔
    ∃ i : Fin types.length, (∀ j < i, r.CanReadAt j types[j]) ∧ r.RefusesAt i types[i] e
  -- Neither names nor cells behind the last field matter.
  irrelevant : ∀ r s : Row,
    (r.cells.map Prod.snd).take types.length = (s.cells.map Prod.snd).take types.length →
    ∀ x, (positional types).read r = .ok x ↔ (positional types).read s = .ok x

theorem byPosition (types : List FieldType) : ByPosition types where
  reads r := exists_readTuple_eq_ok_iff
  holds r x := readTuple_eq_ok_iff
  fails r e := readTuple_eq_error_iff
  irrelevant r s h x := by
    have hvalue (i : Fin types.length) : r.cells[i.val]?.map Prod.snd = s.cells[i.val]?.map Prod.snd := by
      rw [← List.getElem?_map, ← List.getElem?_map, ← List.getElem?_take_of_lt i.isLt, h,
        List.getElem?_take_of_lt i.isLt]
    have hreads (i : Fin types.length) (y : types[i].Carrier) :
        r.ReadsAt i types[i] y ↔ s.ReadsAt i types[i] y := by
      rw [Row.ReadsAt, Row.ReadsAt, hvalue i]
    exact readTuple_eq_ok_iff.trans ((forall_congr' fun i => hreads i _).trans readTuple_eq_ok_iff.symm)

end Layout

end SqlBuilder
