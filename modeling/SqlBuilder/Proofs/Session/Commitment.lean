import SqlBuilder.Proofs.Session.Outcome
/-!
Whether the commit of a transaction succeeded, told from what running the transaction yields.
-/
namespace SqlBuilder

namespace Sql

theorem Statement.IsCompiled.kind_ne_raw {s : Statement} (h : s.IsCompiled) : s.kind ≠ .raw := by
  obtain ⟨d, q, hq⟩ := h
  unfold Query.compile at hq
  split at hq <;> cases hq
  cases q <;> simp [Query.kind]

end Sql

namespace Session

open Sql Deed

variable {σ ω : Type}

-- Whether a commit is executed on a connection with success.
def Call.commits (c : Connection) : Call → Bool
  | .execute c' statement (.ok _) => c' = c && statement = Finish.commit.statement
  | _ => false

theorem Call.commits_iff {c : Connection} {call : Call} :
    call.commits c = true ↔ ∃ answer, call = .execute c Finish.commit.statement (.ok answer) := by
  unfold commits
  split
  case h_1 c' statement row =>
    simp only [Bool.and_eq_true, decide_eq_true_eq, execute.injEq, Except.ok.injEq, exists_and_left,
      exists_eq', and_true]
  case h_2 h =>
    simp only [Bool.false_eq_true, false_iff, not_exists]
    exact fun answer hc => h _ _ _ hc

def State.Committed (s : State σ) (c : Connection) : Prop := ∃ call ∈ s.calls, call.commits c

instance (s : State σ) (c : Connection) : Decidable (s.Committed c) :=
  inferInstanceAs (Decidable (∃ call ∈ s.calls, call.commits c))

theorem State.committed_iff {s : State σ} {c : Connection} :
    s.Committed c ↔ ∃ answer, .execute c Finish.commit.statement (.ok answer) ∈ s.calls := by
  simp only [Committed, Call.commits_iff]
  constructor
  case mp =>
    rintro ⟨_, hm, answer, rfl⟩
    exact ⟨answer, hm⟩
  case mpr => exact fun ⟨answer, hm⟩ => ⟨_, hm, answer, rfl⟩

-- No query is a commit, and neither is what begins a transaction.
theorem Deed.not_commits_of_open {d : Dialect} {c : Connection} {slot : Nat} {begins : QueryResult}
    {qs : List Deed} (queries : ∀ x ∈ qs, x.IsQuery slot c) {x : Deed} (h : x ∈ begun d c begins ++ qs)
    (answer : Except Error QueryResult) : x.call ≠ .execute c Finish.commit.statement answer := by
  cases List.mem_append.mp h
  case inl h =>
    have hb : Statement.ofText d.beginStatement ≠ Finish.commit.statement := by cases d <;> decide
    simp only [begun, List.mem_cons, List.not_mem_nil, or_false] at h
    rcases h with rfl | rfl
    case inl =>
      intro hx
      cases hx
    case inr =>
      intro hx
      injection hx with _ hs _
      exact hb hs
  case inr h =>
    obtain ⟨statement, _, compiled, rfl⟩ := queries x h
    intro hx
    injection hx with _ hs _
    exact compiled.kind_ne_raw (hs ▸ rfl)

namespace Ledger

variable {d : Dialect} {ds : List Deed} {s : State σ} {c : Nat}

-- Nothing was committed on a connection that has not been acquired.
theorem not_committed_next (l : Ledger d ds s) : ¬s.Committed (s.acquired + 1) := by
  rw [State.committed_iff]
  rintro ⟨answer, h⟩
  rw [l.calls, mem_calls rfl] at h
  obtain ⟨x, hx, _⟩ := h
  rw [(l.standing (s.acquired + 1)).next.1] at hx
  exact absurd hx List.not_mem_nil

-- Nor was anything on the connection of a transaction that is still open.
theorem not_committed_of_held {slot : Nat} (l : Ledger d ds s) (h : s.held[slot]? = some (some c)) :
    ¬s.Committed c := by
  rw [State.committed_iff]
  rintro ⟨answer, hc⟩
  rw [l.calls, mem_calls rfl] at hc
  obtain ⟨x, hx, hxc⟩ := hc
  obtain ⟨_, _, _, _, hd, queries⟩ := (l.standing c).of_held h
  exact not_commits_of_open queries (hd ▸ hx) _ hxc

end Ledger

namespace Handle

variable {h : Handle} {d : Driver σ} {s : State σ} {c : Connection}

-- Where a transaction does not begin, nothing is executed with success.
theorem not_committed_of_begin_error {s' : State σ} {e : Error} (hb : h.begin d s = (.error e, s'))
    (hc : ¬s.Committed c) : ¬s'.Committed c := by
  rw [State.committed_iff] at hc ⊢
  rintro ⟨answer, hm⟩
  refine hc ⟨answer, ?_⟩
  cases hs : h.source
  case none =>
    cases begin_none d s hs ▸ hb
    exact hm
  case transaction slot =>
    cases begin_transaction d s hs ▸ hb
    exact hm
  case driver =>
    rw [begin_driver d s hs] at hb
    rcases ha : d.acquire s.driver with ⟨_ | _, driver⟩
    case error =>
      cases ha ▸ hb
      simpa using hm
    case ok =>
      simp only [ha] at hb
      rcases he : d.execute (s.acquired + 1) (.ofText d.dialect.beginStatement) driver with ⟨_ | _, driver'⟩
      case error =>
        cases he ▸ hb
        simpa using hm
      case ok => cases he ▸ hb

-- What concludes an open transaction commits only for an outcome that is a value, and then nothing but
-- the release of the connection can still fail.
theorem conclude_committed {slot : Nat} {α : Type} (hs : h.source = .transaction slot)
    (hc : s.held[slot]? = some (some c)) (before : ¬s.Committed c) (outcome : Except Error α)
    (after : (h.conclude d outcome s).2.Committed c) :
    ∃ x released, outcome = .ok x ∧
      (h.conclude d outcome s).2.calls.getLast? = some (.release c released) ∧
      (h.conclude d outcome s).1 = released.map fun _ => x := by
  obtain ⟨-, answer, released, hcalls, hresult⟩ := h.conclude_apply d hs hc outcome
  rw [State.committed_iff] at before after
  have ⟨row, hm⟩ := after
  have hn : .execute c Finish.commit.statement (.ok row) ∉ s.calls := fun hm => before ⟨row, hm⟩
  have he : Call.execute c Finish.commit.statement (.ok row) =
      .execute c (finishOf outcome).statement answer := by
    simpa [hcalls, hn] using hm
  injection he with _ hf ha
  subst ha
  cases outcome
  case error e =>
    have hne : Finish.commit.statement ≠ Finish.rollback.statement := by decide
    exact absurd hf hne
  case ok x => exact ⟨x, released, rfl, by simp [hcalls], hresult⟩

end Handle

namespace Script

variable {d : Driver σ} {h : Handle} {driver : σ} {s : Script σ} {ds : List Deed}

theorem bodyOutcome_eq_ok {ended : Option Error} {outcome : Except Error ω} {x : ω}
    (h : bodyOutcome ended outcome = .ok x) : outcome = .ok x := by
  cases ended
  case none => exact h
  case some => cases h

-- What a transaction yields that was concluded with its connection `c`.
structure Truthful (c : Connection) (outcome result : Except Error ω) (s : State σ) : Prop where
  -- An error means that nothing was committed, unless it is that of the release after the commit.
  error : result = .error e → s.Committed c → s.calls.getLast? = some (.release c (.error e))
  -- After a commit the result is the value of the body, as far as the connection could be released.
  committed : s.Committed c → ∃ x released, outcome = .ok x ∧
    s.calls.getLast? = some (.release c released) ∧ result = released.map fun _ => x

theorem Truthful.of_not_committed {c : Connection} {outcome result : Except Error ω} {s : State σ}
    (never : ¬s.Committed c) : Truthful c outcome result s where
  error _ hc := absurd hc never
  committed hc := absurd hc never

theorem Truthful.of_committed {c : Connection} {outcome result : Except Error ω} {s : State σ}
    (h : s.Committed c → ∃ x released, outcome = .ok x ∧
      s.calls.getLast? = some (.release c released) ∧ result = released.map fun _ => x) :
    Truthful c outcome result s where
  error he hc := by
    obtain ⟨x, released, _, hlast, hresult⟩ := h hc
    cases released
    case ok => cases he.symm.trans hresult
    case error e =>
      cases he.symm.trans hresult
      exact hlast
  committed := h

-- Whatever the driver answers, running a transaction tells whether it was committed if its body does
-- not finish it.
theorem Run.transaction_truthful {on : String} {o : Owner} (run : Run ω d (start h driver) ds s)
    (ho : (owner? on s).1 = some o) (name : String) (body : List (BodyStep σ ω))
    (outcome : Except Error ω)
    (unfinished : ∀ t state, o.handle.begin d s.state = (.ok t, state) →
      (bodyDeeds d body (s.entered name t state)).countP (·.finishes s.state.held.length) = 0) :
    let replied := reply d (.transaction on name body outcome) s
    ∃ result reports, replied.1 = .transaction result reports ∧
      Truthful (s.state.acquired + 1) outcome result replied.2.state := by
  have fresh := run.ledger.not_committed_next
  rw [reply_transaction d ho]
  rcases hb : o.handle.begin d s.state with ⟨e | t, state⟩
  case error =>
    exact ⟨.error e, [], rfl, .of_not_committed (Handle.not_committed_of_begin_error hb fresh)⟩
  case ok =>
    dsimp only
    have ⟨ht, hc⟩ := Handle.begin_ok hb
    have inside : Run ω d (start h driver) _ (s.entered name t state) := run.enter ho hb
    have ⟨old, holds, _⟩ := (inside.ledger.standing (s.state.acquired + 1)).of_held hc
    have owns : Owns s.state.held.length (s.state.acquired + 1) state.acquired state.held :=
      ⟨old, fun k => (holds k).mp, .inl hc⟩
    have acts := runBody_acts d body (s.entered name t state)
    have o := acts.owns owns
    have l := (inside.body body).ledger
    -- The body leaves the transaction open, since it sends no statement that finishes it.
    have count := acts.countP_finishes s.state.held.length
    have hopen : ¬(s.entered name t state).state.Closed s.state.held.length :=
      fun closed => absurd (hc.symm.trans closed) nofun
    rw [unfinished t state hb, if_neg hopen] at count
    generalize runBody d body (s.entered name t state) = ran at l o count
    have held : ran.2.state.held[s.state.held.length]? = some (some (s.state.acquired + 1)) := by
      refine o.began.resolve_right fun closed => ?_
      have hcl : ran.2.state.Closed s.state.held.length := closed
      simp [if_pos hcl] at count
    refine ⟨_, _, rfl, .of_committed fun after => ?_⟩
    obtain ⟨x, released, hx, hlast, hresult⟩ :=
      Handle.conclude_committed ht held (l.not_committed_of_held held) (bodyOutcome ran.1.2 outcome) after
    exact ⟨x, released, bodyOutcome_eq_ok hx, hlast, hresult⟩

-- A body that leaves its transaction open: it runs a query through a clone.
def writing : List (BodyStep Answers Nat) :=
  [⟨.clone "t" "u", false⟩, ⟨.run "u" (.delete ⟨[], ⟨"person", none⟩, []⟩) .all .row, true⟩]

theorem writing_truthful :
    let d := Recorder.full.driver .sqlite
    let replied := reply d (.transaction firstName "t" writing (.ok 7)) onSqlite
    replied.2.state.Committed 1 ∧
      (∀ t state, (Handle.ofDriver d {}).begin d onSqlite.state = (.ok t, state) →
        (bodyDeeds d writing (onSqlite.entered "t" t state)).countP (·.finishes 0) = 0) ∧
      ∃ result reports, replied.1 = .transaction result reports ∧
        Truthful 1 (.ok 7) result replied.2.state := by
  have first : Run Nat (Recorder.full.driver .sqlite) onSqlite [] onSqlite := .nil
  have ho : (owner? firstName onSqlite).1 = some (.db (.ofDriver (Recorder.full.driver .sqlite) {})) := rfl
  have unfinished : ∀ t state, (Handle.ofDriver (Recorder.full.driver .sqlite) {}).begin
      (Recorder.full.driver .sqlite) onSqlite.state = (.ok t, state) →
      (bodyDeeds (Recorder.full.driver .sqlite) writing (onSqlite.entered "t" t state)).countP
        (·.finishes 0) = 0 := by
    intro t state hb
    cases hb
    decide +kernel
  exact ⟨by decide +kernel, unfinished, first.transaction_truthful ho "t" writing (.ok 7) unfinished⟩

-- A driver that commits but cannot take the connection back makes an error of a committed transaction.
theorem unreleased_committed :
    let d := Recorder.full.driver .sqlite
    let s := start (.ofDriver d {}) { release := [some "gone"] }
    let replied := reply d (.transaction firstName "t" [] (.ok 7)) s
    replied.1 = .transaction (.error (.driver "gone")) [] ∧ replied.2.state.Committed 1 ∧
      ∀ inside, (bodyDeeds d ([] : List (BodyStep Answers Nat)) inside).countP (·.finishes 0) = 0 :=
  ⟨rfl, by decide +kernel, fun _ => rfl⟩

end Script

end Session

end SqlBuilder
