import SqlBuilder.Proofs.Sql.Fault
import SqlBuilder.Proofs.Sql.Values
/-!
One query in two dialects. Each spells the statement its own way, but they bind the same values, and what is
wrong with the query is wrong in both, save for the inserts that a dialect does not support.
-/
namespace SqlBuilder.Sql

variable {d d' : Dialect}

theorem Flaw.error_ne_unsupported (f : Flaw) (feature : Feature) : f.error ≠ .unsupported feature d := by
  intro h
  cases f
  case unselected => cases h
  case unmatched r =>
    rw [error] at h
    split at h <;> cases h

namespace Fault

-- Whether it depends on the dialect that something is wrong.
def ofDialect : Fault → Bool
  | replace => true
  | severalDefaultRows => true
  | _ => false

variable {f : Fault}

theorem error_eq_of_not_ofDialect (h : f.ofDialect = false) (d d' : Dialect) : f.error d = f.error d' := by
  cases f
  case replace => cases h
  case severalDefaultRows => cases h
  all_goals rfl

theorem exists_unsupported_of_ofDialect (h : f.ofDialect = true) (d : Dialect) :
    ∃ feature, f.error d = .unsupported feature d := by
  cases f
  case replace => exact ⟨_, rfl⟩
  case severalDefaultRows => exact ⟨_, rfl⟩
  all_goals cases h

theorem of_error_eq_unsupported {feature : Feature} (h : f.error d = .unsupported feature d') :
    d' = d ∧ (f = .replace ∨ f = .severalDefaultRows) := by
  cases f
  case replace => cases h; exact ⟨rfl, .inl rfl⟩
  case severalDefaultRows => cases h; exact ⟨rfl, .inr rfl⟩
  case flaw f => exact absurd h (f.error_ne_unsupported feature)
  all_goals cases h

end Fault

namespace Insert

variable {q : Insert}

theorem of_replace_mem_faults (h : .replace ∈ q.faults d) : q.mode = .replace ∧ d = .postgres := by
  simp only [faults, verbFaults, rowsFaults] at h
  grind

theorem of_severalDefaultRows_mem_faults (h : .severalDefaultRows ∈ q.faults d) :
    q.columns = [] ∧ 1 < q.rows.length ∧ (d = .postgres ∨ d = .sqlite) := by
  simp only [faults, verbFaults, rowsFaults, ← columns_eq_united] at h
  cases d <;> grind

-- What does not depend on the dialect is met in the same order in all of them.
theorem filter_faults (d d' : Dialect) (q : Insert) :
    (q.faults d).filter (!·.ofDialect) = (q.faults d').filter (!·.ofDialect) := by
  have hv (d : Dialect) : (q.verbFaults d).filter (!·.ofDialect) = [] := by
    unfold verbFaults
    split <;> rfl
  have hr : (q.rowsFaults d).filter (!·.ofDialect) = (q.rowsFaults d').filter (!·.ofDialect) := by
    unfold rowsFaults
    split
    case isTrue => split <;> split <;> rfl
    case isFalse => rfl
  unfold faults
  split
  case isTrue => rfl
  case isFalse => simp only [List.filter_append, hv, hr]

end Insert

namespace Query

-- Two outcomes of compiling that differ in the spelling of the statement alone.
inductive Agree : Except Error Statement → Except Error Statement → Prop
  | compiled {s s' : Statement} (params : s.params = s'.params) (kind : s.kind = s'.kind) : Agree (.ok s) (.ok s')
  | failed (e : Error) : Agree (.error e) (.error e)

-- Whether a query is refused because it asks for something that the dialect does not have.
def Unsupported (d : Dialect) (q : Query) : Prop :=
  ∃ feature named, q.compile d = .error (.unsupported feature named)

variable {q : Query}

theorem filter_faults (d d' : Dialect) (q : Query) :
    (q.faults d).filter (!·.ofDialect) = (q.faults d').filter (!·.ofDialect) := by
  cases q
  case insert q => exact q.filter_faults d d'
  all_goals rfl

theorem supported_of_compile {s : Statement} (h : q.compile d = .ok s) : ¬q.Unsupported d := by
  rintro ⟨feature, named, he⟩
  cases h.symm.trans he

theorem not_ofDialect_of_supported (h : ¬q.Unsupported d) {f : Fault} (hf : (q.faults d).head? = some f) :
    f.ofDialect = false := by
  cases hd : f.ofDialect
  case false => rfl
  case true =>
    have ⟨feature, he⟩ := Fault.exists_unsupported_of_ofDialect hd d
    exact absurd ⟨feature, d, compile_eq_error_iff.mpr ⟨f, hf, he⟩⟩ h

-- The faults of a supported query begin with one that is met in every dialect.
theorem head?_faults (h : ¬q.Unsupported d) :
    (q.faults d).head? = ((q.faults d).filter (!·.ofDialect)).head? := by
  cases hq : q.faults d
  case nil => rfl
  case cons f fs =>
    have hf : f.ofDialect = false := not_ofDialect_of_supported h (by rw [hq, List.head?_cons])
    rw [List.filter_cons_of_pos (by simp [hf]), List.head?_cons, List.head?_cons]

theorem agree_of_supported (h : ¬q.Unsupported d) (h' : ¬q.Unsupported d') :
    Agree (q.compile d) (q.compile d') := by
  have hh : (q.faults d).head? = (q.faults d').head? := by
    rw [head?_faults h, head?_faults h', filter_faults d d']
  cases hc : q.compile d <;> cases hc' : q.compile d'
  case error.error e e' =>
    obtain ⟨f, hf, rfl⟩ := compile_eq_error_iff.mp hc
    obtain ⟨f', hf', rfl⟩ := compile_eq_error_iff.mp hc'
    obtain rfl : f = f' := Option.some.inj (hf.symm.trans (hh.trans hf'))
    rw [Fault.error_eq_of_not_ofDialect (not_ofDialect_of_supported h hf) d d']
    exact .failed _
  case ok.ok s s' =>
    have hk : s.kind = s'.kind := by rw [(eq_of_compile hc).2, (eq_of_compile hc').2]
    exact .compiled ((params_eq_values hc).trans (params_eq_values hc').symm) hk
  case ok.error s e =>
    obtain ⟨f, hf, -⟩ := compile_eq_error_iff.mp hc'
    have hn := exists_compile_eq_ok_iff.mp ⟨s, hc⟩
    simp [hn, hf] at hh
  case error.ok e s =>
    obtain ⟨f, hf, -⟩ := compile_eq_error_iff.mp hc
    have hn := exists_compile_eq_ok_iff.mp ⟨s, hc'⟩
    simp [hn, hf] at hh

-- Only inserts can be unsupported: replaces, and several rows without columns.
theorem of_unsupported {feature : Feature} (h : q.compile d = .error (.unsupported feature d')) :
    d' = d ∧ ∃ i, q = .insert i ∧
      ((i.mode = .replace ∧ d = .postgres) ∨
        (i.columns = [] ∧ 1 < i.rows.length ∧ (d = .postgres ∨ d = .sqlite))) := by
  obtain ⟨f, hf, he⟩ := compile_eq_error_iff.mp h
  have hm : f ∈ q.faults d := List.mem_of_head? hf
  obtain ⟨hd, hkind⟩ := Fault.of_error_eq_unsupported he
  cases q
  case insert i =>
    refine ⟨hd, i, rfl, ?_⟩
    rcases hkind with rfl | rfl
    case inl => exact .inl (Insert.of_replace_mem_faults hm)
    case inr => exact .inr (Insert.of_severalDefaultRows_mem_faults hm)
  all_goals
    simp only [faults, Update.faults] at hm
    grind

-- A query that is no insert compiles in all dialects or fails in all with the same error, and so does an
-- insert where it is supported. The parameters are the same in every dialect.
theorem dialects_agree (q : Query) (d d' : Dialect) :
    ((∀ i, q ≠ .insert i) → Agree (q.compile d) (q.compile d')) ∧
    (¬q.Unsupported d → ¬q.Unsupported d' → Agree (q.compile d) (q.compile d')) ∧
    (∀ s s', q.compile d = .ok s → q.compile d' = .ok s' → s.params = s'.params) ∧
    (∀ feature d', q.compile d = .error (.unsupported feature d') → d' = d ∧ ∃ i, q = .insert i ∧
      ((i.mode = .replace ∧ d = .postgres) ∨
        (i.columns = [] ∧ 1 < i.rows.length ∧ (d = .postgres ∨ d = .sqlite)))) := by
  refine ⟨fun hi => ?others, agree_of_supported, fun s s' hs hs' => ?params, fun _ _ => of_unsupported⟩
  case others =>
    have hs (d : Dialect) : ¬q.Unsupported d := by
      rintro ⟨feature, named, h⟩
      obtain ⟨-, i, hq, -⟩ := of_unsupported h
      exact hi i hq
    exact agree_of_supported (hs d) (hs d')
  case params => exact (params_eq_values hs).trans (params_eq_values hs').symm

-- Two rows that set different columns, for a verb that postgres does not have.
def replaced : Query := .insert {
  ctes := []
  mode := .replace
  table := "pet"
  rows := [[("name", .value (.string "Rex"))], [("id", .value (.i32 7))]]
  ignore := false
  conflict := none }

theorem replaced_agree :
    let params : List Value := [.string "Rex", .i32 7]
    replaced.compile .postgres = .error (.unsupported .replace .postgres) ∧
    replaced.compile .mysql =
      .ok ⟨"replace into `pet` (`name`, `id`) values (?, default), (default, ?)", params, .insert⟩ ∧
    replaced.compile .sqlite =
      .ok ⟨"replace into \"pet\" (\"name\", \"id\") values (?1, null), (null, ?2)", params, .insert⟩ ∧
    ¬replaced.Unsupported .mysql ∧ ¬replaced.Unsupported .sqlite ∧
    Agree (replaced.compile .mysql) (replaced.compile .sqlite) := by
  intro params
  have hp : replaced.compile .postgres = .error (.unsupported .replace .postgres) := by decide +kernel
  have hm : replaced.compile .mysql =
      .ok ⟨"replace into `pet` (`name`, `id`) values (?, default), (default, ?)", params, .insert⟩ := by
    decide +kernel
  have hs : replaced.compile .sqlite =
      .ok ⟨"replace into \"pet\" (\"name\", \"id\") values (?1, null), (null, ?2)", params, .insert⟩ := by
    decide +kernel
  have hm' := supported_of_compile hm
  have hs' := supported_of_compile hs
  exact ⟨hp, hm, hs, hm', hs', (dialects_agree replaced .mysql .sqlite).2.1 hm' hs'⟩

end Query

end SqlBuilder.Sql
