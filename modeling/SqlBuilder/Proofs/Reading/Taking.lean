import SqlBuilder.Proofs.Reading.Named
/-!
Cells that are taken from a row one after the other. A row is one queue for each name: a call is answered from the
first cell of its name that is left and removes it, also when it cannot be read, and no other queue changes.
-/
namespace SqlBuilder

-- No mismatch reads like the lack of a cell.
theorem Mismatch.message_ne_missing (m : Mismatch) : m.message ≠ "column not found in row" := by
  intro h
  have hfirst : m.message.toList.head? = some 'c' := h ▸ rfl
  simp [message, String.toList_append] at hfirst

namespace Row

variable {r s : Row} {name other : String} {names : List String} {t : FieldType} {c : String × Value}
  {cells : List (String × Value)} {calls : List (String × FieldType)} {k : Nat}

theorem remove_cons_self (v : Value) : remove ⟨(name, v) :: cells⟩ name = ⟨cells⟩ := by
  simp [remove]

theorem remove_cons_of_ne (h : c.1 ≠ name) : remove ⟨c :: cells⟩ name = ⟨c :: (remove ⟨cells⟩ name).cells⟩ := by
  simp [remove, h]

theorem remove_of_missing (h : r.get? name = none) : r.remove name = r := by
  have hcells : ∀ c ∈ r.cells, ¬decide (c.1 = name) = true := by
    intro c hc hn
    exact get?_eq_none_iff.mp h (List.mem_map.mpr ⟨c, hc, of_decide_eq_true hn⟩)
  rw [remove, List.eraseP_of_forall_not hcells]

-- A call removes its cell whatever comes of reading it.
theorem take_snd : (r.take t name).2 = r.remove name := by
  cases h : r.get? name with
  | none => rw [take, h, remove_of_missing h]
  | some v => rw [take, h]

-- The values of the cells with a name in their order.
def queue (r : Row) (name : String) : List Value := (r.cells.filter (·.1 = name)).map Prod.snd

theorem get?_eq_head?_queue : r.get? name = (r.queue name).head? := by
  rw [get?_eq_head?, queue, List.head?_map]

theorem queue_cons_self (v : Value) : queue ⟨(name, v) :: cells⟩ name = v :: queue ⟨cells⟩ name := by
  simp [queue]

theorem queue_cons_of_ne (h : c.1 ≠ name) : queue ⟨c :: cells⟩ name = queue ⟨cells⟩ name := by
  simp [queue, h]

theorem queue_remove_self : (r.remove name).queue name = (r.queue name).tail := by
  obtain ⟨cells⟩ := r
  induction cells with
  | nil => rfl
  | cons c cells ih =>
    obtain ⟨first, v⟩ := c
    by_cases h : first = name
    case pos =>
      subst h
      rw [remove_cons_self, queue_cons_self, List.tail_cons]
    case neg => rw [remove_cons_of_ne h, queue_cons_of_ne h, queue_cons_of_ne h, ih]

theorem queue_remove_of_ne (h : name ≠ other) : (r.remove name).queue other = r.queue other := by
  obtain ⟨cells⟩ := r
  induction cells with
  | nil => rfl
  | cons c cells ih =>
    obtain ⟨first, v⟩ := c
    by_cases hn : first = name
    case pos =>
      subst hn
      rw [remove_cons_self, queue_cons_of_ne h]
    case neg =>
      rw [remove_cons_of_ne hn]
      by_cases ho : first = other
      case pos =>
        subst ho
        rw [queue_cons_self, queue_cons_self, ih]
      case neg => rw [queue_cons_of_ne ho, queue_cons_of_ne ho, ih]

-- What comes of a call, which is a name with the type that its cell is read as.
structure Answer where
  name : String
  type : FieldType
  result : Except Error type.Carrier

structure Taken where
  answers : List Answer
  left : Row

-- Takes a cell for each call in turn. A call that fails does not keep the later ones from being made.
def takeEach : List (String × FieldType) → Row → Taken
  | [], r => ⟨[], r⟩
  | (name, t) :: calls, r =>
    let (result, rest) := r.take t name
    let taken := takeEach calls rest
    ⟨⟨name, t, result⟩ :: taken.answers, taken.left⟩

theorem answers_cons (name : String) (t : FieldType) (calls : List (String × FieldType)) (r : Row) :
    (r.takeEach ((name, t) :: calls)).answers =
      ⟨name, t, (r.take t name).1⟩ :: ((r.remove name).takeEach calls).answers := by
  rw [← take_snd (t := t)]
  rfl

theorem left_cons (name : String) (t : FieldType) (calls : List (String × FieldType)) (r : Row) :
    (r.takeEach ((name, t) :: calls)).left = ((r.remove name).takeEach calls).left := by
  rw [← take_snd (t := t)]
  rfl

theorem map_answers : (r.takeEach calls).answers.map (fun a => (a.name, a.type)) = calls := by
  induction calls generalizing r with
  | nil => rfl
  | cons call calls ih => rw [answers_cons, List.map_cons, ih]

-- The answer that a call is due after `k` other calls for its name.
structure Answer.IsFrom (a : Answer) (r : Row) (k : Nat) : Prop where
  decoded : ∀ v, (r.queue a.name)[k]? = some v → a.result = (a.type.decode v).mapError (decodeError a.name)
  missing : a.result = .error (.decode a.name "column not found in row") ↔ (r.queue a.name).length ≤ k

theorem isFrom_take : Answer.IsFrom ⟨name, t, (r.take t name).1⟩ r 0 := by
  have hfirst : (r.queue name)[0]? = r.get? name := by rw [get?_eq_head?_queue, List.head?_eq_getElem?]
  cases h : r.get? name with
  | none =>
    rw [h] at hfirst
    constructor
    case decoded =>
      intro v hv
      cases hfirst.symm.trans hv
    case missing => exact iff_of_true (look_of_missing (f := (name, t)) h) (List.getElem?_eq_none_iff.mp hfirst)
  | some v =>
    rw [h] at hfirst
    have hlook : (r.take t name).1 = (t.decode v).mapError (decodeError name) := look_of_found (f := (name, t)) h
    constructor
    case decoded =>
      intro w hw
      cases hfirst.symm.trans hw
      exact hlook
    case missing =>
      refine iff_of_false ?_ (Nat.not_le.mpr (List.getElem?_eq_some_iff.mp hfirst).1)
      intro he
      obtain ⟨m, -, hm⟩ := mapError_eq_error_iff.mp (hlook.symm.trans he)
      exact m.message_ne_missing (Error.decode.inj hm).2

namespace Answer.IsFrom

variable {a : Answer}

theorem of_remove_self (h : a.IsFrom (r.remove a.name) k) : a.IsFrom r (k + 1) where
  decoded v hv := h.decoded v (by rw [queue_remove_self, List.getElem?_tail, hv])
  missing := by rw [h.missing, queue_remove_self, List.length_tail, Nat.sub_le_iff_le_add]

theorem of_remove_of_ne (hn : name ≠ a.name) (h : a.IsFrom (r.remove name) k) : a.IsFrom r k where
  decoded v hv := h.decoded v (by rw [queue_remove_of_ne hn, hv])
  missing := by rw [h.missing, queue_remove_of_ne hn]

end Answer.IsFrom

theorem isFrom_of_getElem? {a : Answer}
    (h : ((r.takeEach calls).answers.filter (·.name = name))[k]? = some a) : a.IsFrom r k := by
  induction calls generalizing r k with
  | nil => cases h
  | cons call calls ih =>
    obtain ⟨asked, t⟩ := call
    have hname : a.name = name := of_decide_eq_true (List.mem_filter.mp (List.mem_of_getElem? h)).2
    rw [answers_cons] at h
    by_cases hasked : asked = name
    case pos =>
      subst hasked
      rw [List.filter_cons_of_pos (by simp)] at h
      cases k with
      | zero =>
        cases h
        exact isFrom_take
      | succ k => exact (hname ▸ ih h).of_remove_self
    case neg =>
      rw [List.filter_cons_of_neg (by simpa using hasked)] at h
      exact (ih h).of_remove_of_ne (hname ▸ hasked)

-- Only the queues of the names that are called matter.
theorem answers_congr (h : ∀ name ∈ calls.map Prod.fst, r.queue name = s.queue name) :
    (r.takeEach calls).answers = (s.takeEach calls).answers := by
  induction calls generalizing r s with
  | nil => rfl
  | cons call calls ih =>
    obtain ⟨name, t⟩ := call
    obtain ⟨hname, hcalls⟩ := List.forall_mem_cons.mp h
    have hresult : (r.take t name).1 = (s.take t name).1 :=
      look_congr (f := (name, t)) (by rw [get?_eq_head?_queue, get?_eq_head?_queue, hname])
    have hrest : ∀ other ∈ calls.map Prod.fst, (r.remove name).queue other = (s.remove name).queue other := by
      intro other ho
      by_cases he : name = other
      case pos => rw [← he, queue_remove_self, queue_remove_self, hname]
      case neg => rw [queue_remove_of_ne he, queue_remove_of_ne he, hcalls other ho]
    rw [answers_cons, answers_cons, hresult, ih hrest]

theorem filter_answers : (r.takeEach calls).answers.filter (·.name = name) =
    (r.takeEach (calls.filter (·.1 = name))).answers := by
  induction calls generalizing r with
  | nil => rfl
  | cons call calls ih =>
    obtain ⟨asked, t⟩ := call
    rw [answers_cons]
    by_cases hasked : asked = name
    case pos =>
      subst hasked
      rw [List.filter_cons_of_pos (by simp), List.filter_cons_of_pos (by simp), answers_cons, ih]
    case neg =>
      rw [List.filter_cons_of_neg (by simpa using hasked), List.filter_cons_of_neg (by simpa using hasked), ih]
      -- The call that is left out has changed none of the queues of the others.
      refine answers_congr fun other ho => queue_remove_of_ne ?_
      obtain ⟨call, hcall, rfl⟩ := List.mem_map.mp ho
      exact fun he => hasked (he.trans (of_decide_eq_true (List.mem_filter.mp hcall).2))

theorem queue_left : (r.takeEach calls).left.queue name = (r.queue name).drop ((calls.map Prod.fst).count name) := by
  induction calls generalizing r with
  | nil => rfl
  | cons call calls ih =>
    obtain ⟨asked, t⟩ := call
    rw [left_cons, ih, List.map_cons]
    by_cases h : asked = name
    case pos => rw [h, queue_remove_self, List.drop_tail, List.count_cons_self]
    case neg => rw [queue_remove_of_ne h, List.count_cons_of_ne h]

theorem get?_left : (r.takeEach calls).left.get? name = (r.queue name)[(calls.map Prod.fst).count name]? := by
  rw [get?_eq_head?_queue, queue_left, List.head?_drop]

-- In front of the cell at a position there are at least as many others of its name as the name occurs in a list.
def Stays (names : List String) (r : Row) (i : Fin r.cells.length) : Prop :=
  names.count r.cells[i].1 ≤ ((r.cells.take i).map Prod.fst).count r.cells[i].1

instance (i : Fin r.cells.length) : Decidable (r.Stays names i) := inferInstanceAs (Decidable (_ ≤ _))

theorem stays_zero : Stays names ⟨c :: cells⟩ (0 : Fin (cells.length + 1)) ↔ c.1 ∉ names := by
  change names.count c.1 ≤ 0 ↔ _
  rw [Nat.le_zero, List.count_eq_zero]

theorem stays_succ {i : Fin cells.length} :
    Stays names ⟨c :: cells⟩ i.succ ↔ Stays (names.erase c.1) ⟨cells⟩ i := by
  change names.count cells[i].1 ≤ (c.1 :: (cells.take i).map Prod.fst).count cells[i].1 ↔ _
  rw [Stays, List.count_erase, List.count_cons, Nat.sub_le_iff_le_add]

-- The cells in their order without the first ones of each name, as many as the name occurs in a list.
def dropEach (names : List String) (r : Row) : Row :=
  ⟨((List.finRange r.cells.length).filter fun i => r.Stays names i).map fun i => r.cells[i]⟩

theorem dropEach_nil : r.dropEach [] = r := by
  have hall : ∀ i ∈ List.finRange r.cells.length, decide (r.Stays [] i) = true :=
    fun _ _ => decide_eq_true (Nat.zero_le _)
  rw [dropEach, List.filter_eq_self.mpr hall]
  exact congrArg mk (List.map_getElem_finRange r.cells)

theorem dropEach_cons (names : List String) (c : String × Value) (cells : List (String × Value)) :
    (dropEach names ⟨c :: cells⟩).cells =
      (if c.1 ∈ names then [] else [c]) ++ (dropEach (names.erase c.1) ⟨cells⟩).cells := by
  simp only [dropEach, List.length_cons, List.finRange_succ, List.filter_cons, List.filter_map, Function.comp_def,
    stays_zero, stays_succ]
  by_cases hc : c.1 ∈ names <;> simp [hc]

-- The first cell of a name may as well be removed at the start: in front of the cells that stay it is one less of
-- their name, and the name has one occurrence less.
theorem dropEach_remove : (r.remove name).dropEach names = r.dropEach (name :: names) := by
  obtain ⟨cells⟩ := r
  have hcells : (dropEach names (remove ⟨cells⟩ name)).cells = (dropEach (name :: names) ⟨cells⟩).cells := by
    induction cells generalizing names with
    | nil => rfl
    | cons c cells ih =>
      obtain ⟨first, v⟩ := c
      by_cases h : first = name
      case pos =>
        subst h
        rw [remove_cons_self, dropEach_cons, if_pos List.mem_cons_self, List.erase_cons_head, List.nil_append]
      case neg =>
        have hmem : first ∈ name :: names ↔ first ∈ names := by simp [h]
        have herase : (name :: names).erase first = name :: names.erase first :=
          List.erase_cons_tail (by simpa using Ne.symm h)
        rw [remove_cons_of_ne h, dropEach_cons, dropEach_cons, herase, ← ih]
        simp only [hmem]
  exact congrArg mk hcells

theorem left_eq : (r.takeEach calls).left = r.dropEach (calls.map Prod.fst) := by
  induction calls generalizing r with
  | nil => exact dropEach_nil.symm
  | cons call calls ih => rw [left_cons, ih, dropEach_remove, List.map_cons]

-- What taking cells from a row by these calls comes to.
structure InTurn (calls : List (String × FieldType)) (r : Row) : Prop where
  -- There is one answer for each call, in the order of the calls.
  each : (r.takeEach calls).answers.map (fun a => (a.name, a.type)) = calls
  -- The calls for a name are answered from the cells of that name in the whole row, one after the other.
  answered : ∀ name k (a : Answer),
    ((r.takeEach calls).answers.filter (·.name = name))[k]? = some a → a.IsFrom r k
  -- They are answered as if no other names were called.
  apart : ∀ name, (r.takeEach calls).answers.filter (·.name = name) =
    (r.takeEach (calls.filter (·.1 = name))).answers
  queues : ∀ name, (r.takeEach calls).left.queue name = (r.queue name).drop ((calls.map Prod.fst).count name)
  left : (r.takeEach calls).left = r.dropEach (calls.map Prod.fst)
  next : ∀ name, (r.takeEach calls).left.get? name = (r.queue name)[(calls.map Prod.fst).count name]?

theorem cells_taken_in_turn (calls : List (String × FieldType)) (r : Row) : InTurn calls r where
  each := map_answers
  answered _ _ _ := isFrom_of_getElem?
  apart _ := filter_answers
  queues _ := queue_left
  left := left_eq
  next _ := get?_left

-- A row of three joined tables, the second one of which has no match.
def household : Row :=
  ⟨[("id", .i32 1), ("name", .string "Jennifer"), ("id", .null), ("age", .null), ("id", .i64 7),
    ("name", .string "Rex")]⟩

-- The first call for `name` and the second one for `id` cannot read their cells, which are gone all the same.
def householdCalls : List (String × FieldType) :=
  [("name", .bool), ("id", .i32), ("owner", .i32), ("id", .i32), ("name", .string), ("name", .string)]

theorem household_taken :
    (household.takeEach householdCalls).left = ⟨[("age", .null), ("id", .i64 7)]⟩ ∧
    (household.takeEach householdCalls).left.get? "id" = some (.i64 7) ∧
    (household.takeEach householdCalls).answers.filter (·.name = "name") =
      [⟨"name", .bool, .error (.decode "name" "expected bool, found string `Jennifer`")⟩,
        ⟨"name", .string, .ok "Rex"⟩,
        ⟨"name", .string, .error (.decode "name" "column not found in row")⟩] := by
  have inTurn := cells_taken_in_turn householdCalls household
  exact ⟨inTurn.left.trans rfl, (inTurn.next "id").trans rfl, (inTurn.apart "name").trans rfl⟩

end Row

end SqlBuilder
