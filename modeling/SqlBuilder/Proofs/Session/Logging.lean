import SqlBuilder.Proofs.Session.Sending
/-!
What is logged of a query that is run. Wherever it fails once it has a connection, or because there is none to be
had from its transaction, the failure is logged. A query that the driver has no connection for leaves no trace.
-/
namespace SqlBuilder.Session

open Sql

variable {σ : Type}

-- What is logged between two states of a session.
def State.logged (s s' : State σ) : List LogEntry := s'.logs.drop s.logs.length

theorem State.logged_eq {s s' : State σ} {entries : List LogEntry} (h : s'.logs = s.logs ++ entries) :
    s.logged s' = entries := by
  rw [logged, h, List.drop_left]

namespace LogSettings

variable {l : LogSettings} {statement : Statement} {millis : Nat} {outcome : Option Error} {entry : LogEntry}

-- What is logged of a success if queries are not.
def warnings (l : LogSettings) (statement : Statement) (millis : Nat) : List LogEntry :=
  match l.slowMillis with
  | some threshold => if threshold.toNat ≤ millis then [.slowQuery statement threshold] else []
  | none => []

theorem entries_success : l.entries statement millis none =
    (if l.queries then [.query statement] else []) ++ l.warnings statement millis := rfl

theorem slow_of_mem_warnings (hm : entry ∈ l.warnings statement millis) :
    ∃ threshold, l.slowMillis = some threshold ∧ entry = .slowQuery statement threshold := by
  unfold warnings at hm
  split at hm
  case h_2 => cases hm
  case h_1 threshold hslow =>
    split at hm
    case isFalse => cases hm
    case isTrue => exact ⟨threshold, hslow, List.mem_singleton.mp hm⟩

theorem filter_debug_entries :
    (l.entries statement millis none).filter (·.level = .debug) = if l.queries then [.query statement] else [] := by
  have hw : (l.warnings statement millis).filter (·.level = .debug) = [] := by
    refine List.filter_eq_nil_iff.mpr fun entry hm => ?_
    obtain ⟨threshold, -, rfl⟩ := slow_of_mem_warnings hm
    simp [LogEntry.slowQuery]
  rw [entries_success, List.filter_append, hw, List.append_nil]
  cases l.queries <;> rfl

theorem level_ne_error (hm : entry ∈ l.entries statement millis none) : entry.level ≠ .error := by
  rcases List.mem_append.mp hm with hm | hm
  case inl =>
    split at hm
    case isFalse => cases hm
    case isTrue =>
      obtain rfl := List.mem_singleton.mp hm
      simp [LogEntry.query]
  case inr =>
    obtain ⟨threshold, -, rfl⟩ := slow_of_mem_warnings hm
    simp [LogEntry.slowQuery]

theorem slow_of_mem (hq : l.queries = false) (he : l.errors = false)
    (hm : entry ∈ l.entries statement millis outcome) :
    ∃ threshold, l.slowMillis = some threshold ∧ entry = .slowQuery statement threshold := by
  cases outcome
  case some e => simp [entries, he] at hm
  case none =>
    rw [entries_success, hq] at hm
    exact slow_of_mem_warnings hm

end LogSettings

namespace Handle

variable (d : Driver σ) (h : Handle) {q : Query} {statement : Statement} (mode : Mode) (l : Layout)

-- Whether the driver has a connection for the handle, if it needs one.
def Served (s : State σ) : Prop := h.source = .driver → (d.acquire s.driver).1 = .ok ()

-- What is logged of a statement that is executed, from the state before to its outcome and the state after.
structure Logs (statement : Statement) (s : State σ) (outcome : Except Error QueryResult) (s' : State σ) :
    Prop where
  logs : s'.logs = s.logs ++ s.logged s'
  refused : ∀ e, h.source = .driver → (d.acquire s.driver).1 = .error e →
    outcome = .error e ∧ s.logged s' = []
  failed : h.Served d s → ∀ e, outcome = .error e →
    s.logged s' = if h.log.errors then [.queryFailed statement e] else []
  succeeded : ∀ result, outcome = .ok result →
    (s.logged s').filter (·.level = .debug) = (if h.log.queries then [.query statement] else []) ∧
      ∀ entry ∈ s.logged s', entry.level ≠ .error
  disabled : h.log.queries = false → h.log.errors = false →
    ∀ entry ∈ s.logged s', ∃ threshold,
      h.log.slowMillis = some threshold ∧ entry = .slowQuery statement threshold

-- Each of the ways to execute a statement ends in logging its outcome, but for the one without a connection.
theorem execute_entries (statement : Statement) (s : State σ) :
    (∃ e, h.source = .driver ∧ (d.acquire s.driver).1 = .error e ∧
      (h.execute d statement s).1 = .error e ∧ (h.execute d statement s).2.logs = s.logs) ∨
    (h.Served d s ∧ ∃ millis, (h.execute d statement s).2.logs =
      s.logs ++ h.log.entries statement millis (failure? (h.execute d statement s).1)) := by
  cases hs : h.source
  case none =>
    rw [execute_none d statement s hs]
    exact .inr ⟨fun hd => (nomatch hs.symm.trans hd), _, rfl⟩
  case driver =>
    rw [execute_driver d statement s hs]
    rcases ha : d.acquire s.driver with ⟨e | _, driver⟩
    case error => exact .inl ⟨e, rfl, rfl, rfl, rfl⟩
    case ok => exact .inr ⟨fun _ => by rw [ha], _, rfl⟩
  case transaction slot =>
    rw [execute_transaction d statement s hs]
    have served : h.Served d s := fun hd => (nomatch hs.symm.trans hd)
    cases s.held[slot]?.join
    case none => exact .inr ⟨served, _, rfl⟩
    case some c => exact .inr ⟨served, _, rfl⟩

theorem execute_logs (statement : Statement) (s : State σ) :
    h.Logs d statement s (h.execute d statement s).1 (h.execute d statement s).2 := by
  rcases h.execute_entries d statement s with ⟨e, hs, ha, he, hlogs⟩ | ⟨served, millis, hlogs⟩
  case inl =>
    have hlogged := State.logged_eq (hlogs.trans (List.append_nil _).symm)
    rw [he]
    constructor
    case logs => rw [hlogged, hlogs, List.append_nil]
    case refused =>
      intro e' _ ha'
      cases ha.symm.trans ha'
      exact ⟨rfl, hlogged⟩
    case failed => exact fun served => (nomatch ha.symm.trans (served hs))
    case succeeded => exact fun result hr => (nomatch hr)
    case disabled => simp [hlogged]
  case inr =>
    have hlogged := State.logged_eq hlogs
    constructor
    case logs => rw [hlogged, hlogs]
    case refused => exact fun e hs ha => (nomatch ha.symm.trans (served hs))
    all_goals rw [hlogged]
    case failed =>
      intro _ e he
      rw [he]
      rfl
    case succeeded =>
      intro result hr
      rw [hr]
      exact ⟨LogSettings.filter_debug_entries, fun _ => LogSettings.level_ne_error⟩
    case disabled => exact fun hq he _ => LogSettings.slow_of_mem hq he

-- Whatever the driver answers, a query that compiles has its failure or its success logged as the handle is told
-- to, unless the driver has no connection for it.
theorem run_logs (hq : q.compile h.dialect = .ok statement) (s : State σ) :
    let executed := h.execute d statement s
    h.run d q mode l s = (executed.1.bind (Outcome.ofResult q.kind mode l), executed.2) ∧
      h.Logs d statement s executed.1 executed.2 :=
  ⟨run_of_compile d h mode l hq s, h.execute_logs d statement s⟩

end Handle

namespace Script

-- The statement goes well and its connection cannot be given back.
theorem unreleased_logs :
    let d := Recorder.full.driver .sqlite
    let h := Handle.ofDriver d {}
    let s : State Answers := { driver := { release := [some "gone"] } }
    dismissal.compile h.dialect = .ok dismissed ∧
    (h.execute d dismissed s).1 = .error (.driver "gone") ∧
    s.logged (h.run d dismissal .all .row s).2 = [.queryFailed dismissed (.driver "gone")] := by
  intro d h s
  have hq : dismissal.compile h.dialect = .ok dismissed := by decide +kernel
  have ⟨hr, logs⟩ := h.run_logs d .all .row hq s
  have failed : (h.execute d dismissed s).1 = .error (.driver "gone") := rfl
  refine ⟨hq, failed, ?_⟩
  rw [hr]
  exact logs.failed (fun _ => rfl) _ failed

-- The driver has no connection, and the error that the query ends with is not logged.
theorem refused_logs_nothing :
    let d := Recorder.full.driver .sqlite
    let h := Handle.ofDriver d {}
    let s : State Answers := { driver := { acquire := [some "pool exhausted"] } }
    dismissal.compile h.dialect = .ok dismissed ∧ h.log.errors = true ∧
    (h.execute d dismissed s).1 = .error (.driver "pool exhausted") ∧
    h.run d dismissal .all .row s = (.error (.driver "pool exhausted"), (h.execute d dismissed s).2) ∧
    s.logged (h.run d dismissal .all .row s).2 = [] := by
  intro d h s
  have hq : dismissal.compile h.dialect = .ok dismissed := by decide +kernel
  have hr := Handle.run_of_compile d h .all .row hq s
  have failed : (h.execute d dismissed s).1 = .error (.driver "pool exhausted") := rfl
  rw [failed] at hr
  refine ⟨hq, rfl, failed, hr, ?_⟩
  rw [hr]
  rfl

end Script

end SqlBuilder.Session
