import SqlBuilder.Proofs.Reading.Positional
import SqlBuilder.Proofs.Session.Sending
import SqlBuilder.Proofs.Sql.Fault
/-!
The three modes of fetching results. They look at different rows, and agree wherever they look at the same ones.
-/
namespace SqlBuilder

open Session

variable {σ : Type} {q : Sql.Query} {d : Dialect}

theorem Sql.Fault.error_ne_noResult (f : Fault) : f.error d ≠ .noResult := by
  intro h
  cases f
  case flaw f =>
    cases f
    case unselected name => cases h
    case unmatched r =>
      rw [error, Flaw.error] at h
      split at h <;> cases h
  all_goals cases h

theorem Sql.Query.compile_ne_noResult : q.compile d ≠ .error .noResult := by
  intro h
  obtain ⟨f, -, hf⟩ := compile_eq_error_iff.mp h
  exact f.error_ne_noResult hf

namespace Session

open Sql
open Layout (both both_eq_ok_iff both_eq_error_iff ByPosition)

variable {l : Layout} {r : Row} {rows : List Row} {mode : Mode} {e : Error} {α β : Type} {f : α → Except Error β}
  {a : α} {as : List α} {bs : List β}

theorem mapM_cons_eq : (a :: as).mapM f = (both (f a) (as.mapM f)).map fun p => p.1 :: p.2 := by
  rw [List.mapM_cons]
  cases f a <;> cases as.mapM f <;> rfl

theorem map_eq_error_iff {g : α → β} {x : Except Error α} : x.map g = .error e ↔ x = .error e := by
  cases x <;> simp [Except.map]

theorem map_eq_ok_iff {g : α → β} {x : Except Error α} {y : β} : x.map g = .ok y ↔ ∃ a, x = .ok a ∧ g a = y := by
  cases x <;> simp [Except.map]

theorem mapM_eq_ok_iff : as.mapM f = .ok bs ↔ List.Forall₂ (fun a b => f a = .ok b) as bs := by
  induction as generalizing bs with
  | nil =>
    rw [List.forall₂_nil_left_iff]
    exact ⟨fun h => (Except.ok.inj h).symm, fun h => h ▸ rfl⟩
  | cons a as ih =>
    simp only [mapM_cons_eq, map_eq_ok_iff, List.forall₂_cons_left_iff, ← ih]
    constructor
    case mp =>
      rintro ⟨⟨b, cs⟩, h, rfl⟩
      obtain ⟨hb, hcs⟩ := both_eq_ok_iff.mp h
      exact ⟨b, cs, hb, hcs, rfl⟩
    case mpr =>
      rintro ⟨b, cs, hb, hcs, rfl⟩
      exact ⟨(b, cs), both_eq_ok_iff.mpr ⟨hb, hcs⟩, rfl⟩

theorem mapM_eq_error_iff : as.mapM f = .error e ↔
    ∃ before a after, as = before ++ a :: after ∧ (∀ b ∈ before, ∃ y, f b = .ok y) ∧ f a = .error e := by
  induction as with
  | nil => simp [pure, Except.pure]
  | cons a as ih =>
    rw [mapM_cons_eq, map_eq_error_iff, both_eq_error_iff, ih]
    constructor
    case mp =>
      rintro (h | ⟨ha, before, c, after, rfl, hbefore, hc⟩)
      · exact ⟨[], a, as, rfl, by simp, h⟩
      · exact ⟨a :: before, c, after, rfl, List.forall_mem_cons.mpr ⟨ha, hbefore⟩, hc⟩
    case mpr =>
      rintro ⟨before, c, after, h, hbefore, hc⟩
      cases before with
      | nil =>
        cases h
        exact .inl hc
      | cons b before =>
        obtain ⟨rfl, rfl⟩ := List.cons.inj h
        obtain ⟨ha, hbefore⟩ := List.forall_mem_cons.mp hbefore
        exact .inr ⟨ha, before, c, after, rfl, hbefore, hc⟩

-- What running a select comes to in the three modes, given the rows that the driver returns.
structure Fetches (l : Layout) (rows : List Row) (run : Mode → Except Error Outcome) : Prop where
  all : ∀ xs, run .all = .ok (.rows l (.all xs)) ↔ List.Forall₂ (fun r x => l.read r = .ok x) rows xs
  allFails : ∀ e, run .all = .error e ↔ ∃ before r after, rows = before ++ r :: after ∧
    (∀ b ∈ before, ∃ x, l.read b = .ok x) ∧ l.read r = .error e
  -- The rows behind the first one are not looked at.
  first : ∀ r rest, rows = r :: rest → run .first = (l.read r).map fun x => .rows l (.first (some x))
  firstNone : run .first = .ok (.rows l (.first none)) ↔ rows = []
  orThrow : rows ≠ [] →
    (∀ x, run .firstOrThrow = .ok (.rows l (.one x)) ↔ run .first = .ok (.rows l (.first (some x)))) ∧
    ∀ e, run .firstOrThrow = .error e ↔ run .first = .error e
  noResult : run .firstOrThrow = .error .noResult ↔ rows = []
  head : ∀ xs, run .all = .ok (.rows l (.all xs)) →
    run .first = .ok (.rows l (.first xs.head?)) ∧
    run .firstOrThrow = match xs.head? with
      | some x => .ok (.rows l (.one x))
      | none => .error .noResult

theorem readFirstOrThrow_cons (r : Row) (rest : List Row) : readFirstOrThrow l (r :: rest) = l.read r := by
  rw [readFirstOrThrow, readFirst]
  cases l.read r <;> rfl

theorem fetch_all_eq_ok_iff {xs : List l.Carrier} :
    (fetch .all l rows).map (Outcome.rows l) = .ok (.rows l (.all xs)) ↔ readAll l rows = .ok xs := by
  rw [fetch]
  cases readAll l rows <;> simp [Except.map]

theorem fetches (hl : ∀ r, l.read r ≠ .error .noResult) :
    Fetches l rows fun mode => (fetch mode l rows).map (.rows l) := by
  constructor
  case all => exact fun xs => fetch_all_eq_ok_iff.trans mapM_eq_ok_iff
  case allFails => exact fun e => map_eq_error_iff.trans (map_eq_error_iff.trans mapM_eq_error_iff)
  case first =>
    rintro r rest rfl
    simp only [fetch, readFirst]
    cases l.read r <;> rfl
  case firstNone =>
    cases rows with
    | nil => exact iff_of_true rfl rfl
    | cons r rest =>
      simp only [fetch, readFirst]
      cases l.read r <;> simp [Except.map]
  case orThrow =>
    intro hrows
    obtain ⟨r, rest, rfl⟩ := List.exists_cons_of_ne_nil hrows
    simp only [fetch, readFirst, readFirstOrThrow_cons]
    cases l.read r <;> simp [Except.map]
  case noResult =>
    cases rows with
    | nil => exact iff_of_true rfl rfl
    | cons r rest =>
      simp only [fetch, readFirstOrThrow_cons, map_eq_error_iff]
      exact iff_of_false (hl r) (List.cons_ne_nil r rest)
  case head =>
    intro xs h
    have hxs := mapM_eq_ok_iff.mp (fetch_all_eq_ok_iff.mp h)
    cases hxs with
    | nil => exact ⟨rfl, rfl⟩
    | cons hx _ =>
      simp only [fetch, readFirst, readFirstOrThrow_cons, hx]
      exact ⟨rfl, rfl⟩

theorem read_positional_ne_noResult (types : List FieldType) :
    (Layout.positional types).read r ≠ .error .noResult := by
  intro h
  obtain ⟨i, -, hi⟩ := ((Layout.byPosition types).fails r .noResult).mp h
  cases hi

-- An insert has its result in each of the modes.
structure Inserts (x : InsertResult) (run : Mode → Except Error Outcome) : Prop where
  all : run .all = .ok (.inserted (.all [x]))
  first : run .first = .ok (.inserted (.first (some x)))
  orThrow : run .firstOrThrow = .ok (.inserted (.one x))

theorem inserts (r : QueryResult) :
    Inserts ⟨r.insertId, r.affected⟩ fun mode => (fetchInserted mode r).map .inserted := by
  have hhead : (insertResults r).head? = some ⟨r.insertId, r.affected⟩ := List.head?_cons
  constructor
  case all => rfl
  case first =>
    rw [fetchInserted, hhead]
    rfl
  case orThrow =>
    rw [fetchInserted, hhead]
    rfl

-- Whatever the driver answers, a query that does not get as far as an answer with rows ends with the same error in
-- each of the modes, and that is not for lack of a result unless the driver says so.
theorem Handle.fetches_agree (d : Driver σ) (h : Handle) (q : Query) (types : List FieldType) (s : State σ) :
    let run (mode : Mode) := (h.run d q mode (.positional types) s).1
    ByPosition types ∧
    match q.compile h.dialect with
    | .error e => e ≠ .noResult ∧ ∀ mode, run mode = .error e
    | .ok statement =>
      match (h.execute d statement s).1 with
      | .error e => ∀ mode, run mode = .error e
      | .ok result =>
        (q.kind = .select → Fetches (.positional types) result.rows run) ∧
        (q.kind = .insert → Inserts ⟨result.insertId, result.affected⟩ run) := by
  refine ⟨Layout.byPosition types, ?_⟩
  cases hq : q.compile h.dialect with
  | error e =>
    refine ⟨fun he => Query.compile_ne_noResult (he ▸ hq), fun mode => ?_⟩
    exact congrArg Prod.fst (Handle.run_of_compile_error d h mode (.positional types) hq s)
  | ok statement =>
    have hrun (mode : Mode) := congrArg Prod.fst (Handle.run_of_compile d h mode (.positional types) hq s)
    dsimp only at hrun ⊢
    cases hx : (h.execute d statement s).1 with
    | error e =>
      intro mode
      rw [hrun, hx]
      rfl
    | ok result =>
      simp only [hrun, hx]
      refine ⟨fun hk => ?_, fun hk => ?_⟩
      · rw [hk]
        exact fetches fun _ => read_positional_ne_noResult types
      · rw [hk]
        exact inserts result

def roster : Query := .select {
  ctes := []
  distinct := false
  whole := false
  selections := [⟨.column ⟨"pet", "id"⟩, none⟩, ⟨.column ⟨"pet", "name"⟩, none⟩]
  table := ⟨"pet", none⟩
  joins := []
  filter := []
  groups := []
  order := []
  page := {} }

def rosterRows : List Row :=
  [⟨[("id", .i32 1), ("name", .null), ("age", .i16 3)]⟩, ⟨[("id", .string "two")]⟩]

-- The second of two rows cannot be read, which is an error only if all rows are asked for.
theorem roster_fetched :
    let d := Recorder.full.driver .sqlite
    let h := Handle.ofDriver d {}
    let s : State Answers := { driver := { execute := [.ok { rows := rosterRows }] } }
    let l : Layout := .positional [.i64, .optional .string]
    let run (mode : Mode) := (h.run d roster mode l s).1
    let pet : l.Carrier := ((1 : Int64), (none : Option String), ())
    roster.compile h.dialect = .ok ⟨"select \"id\", \"name\" from \"pet\"", [], .select⟩ ∧
    run .all = .error (.decode "id" "expected i64, found string `two`") ∧
    run .first = .ok (.rows l (.first (some pet))) ∧
    run .firstOrThrow = .ok (.rows l (.one pet)) := by
  intro d h s l run pet
  have hq : roster.compile h.dialect = .ok ⟨"select \"id\", \"name\" from \"pet\"", [], .select⟩ := by
    decide +kernel
  have hx : (h.execute d ⟨"select \"id\", \"name\" from \"pet\"", [], .select⟩ s).1 =
      .ok { rows := rosterRows } := rfl
  have agree := (Handle.fetches_agree d h roster [.i64, .optional .string] s).2
  rw [hq] at agree
  dsimp only at agree
  rw [hx] at agree
  have fetched := agree.1 rfl
  have first : run .first = .ok (.rows l (.first (some pet))) := fetched.first _ _ rfl
  refine ⟨hq, ?_, first, ((fetched.orThrow (List.cons_ne_nil _ _)).1 pet).mpr first⟩
  refine (fetched.allFails _).mpr ⟨[rosterRows[0]], rosterRows[1], [], rfl, ?_, rfl⟩
  exact List.forall_mem_singleton.mpr ⟨pet, rfl⟩

end Session

end SqlBuilder
