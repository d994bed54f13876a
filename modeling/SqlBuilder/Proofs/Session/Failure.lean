import SqlBuilder.Proofs.Session.Outcome
import SqlBuilder.Proofs.Session.Sending
/-!
Which error an operation ends with when more than one of the calls that it makes fail, and what becomes of its
connections then. The first failure is the one that is returned, and none of them keeps a connection from being
released.
-/
namespace SqlBuilder.Session

open Sql Deed

variable {σ ω α β : Type}

-- The error that a call failed with.
def Call.failure? : Call → Option Error
  | acquire answer => Session.failure? answer
  | execute _ _ answer => Session.failure? answer
  | release _ answer => Session.failure? answer
  | destroy answer => Session.failure? answer

-- The error of the first call that failed.
def firstError? (calls : List Call) : Option Error := calls.findSome? Call.failure?

-- If a call failed then the answer is the error of the first one that did.
def Surfaces (calls : List Call) (answer : Except Error α) : Prop :=
  ∀ e, firstError? calls = some e → answer = .error e

theorem failure?_eq_some_iff {a : Except Error α} {e : Error} : failure? a = some e ↔ a = .error e := by
  cases a <;> simp [failure?]

@[simp] theorem failure?_ok (x : α) : failure? (.ok x) = none := rfl

theorem failure?_firstFailure (a : Except Error α) (b : Except Error Unit) :
    failure? (firstFailure a b) = (failure? a).or (failure? b) := by
  cases a <;> cases b <;> rfl

theorem failure?_bind (a : Except Error α) (b : Except Error β) :
    failure? (a.bind fun _ => b) = (failure? a).or (failure? b) := by
  cases a <;> rfl

theorem failure?_concluded (outcome : Except Error α) (finished : Except Error Unit) :
    failure? (concluded outcome finished) = (failure? outcome).or (failure? finished) := by
  cases outcome <;> cases finished <;> rfl

@[simp] theorem firstError?_nil : firstError? [] = none := rfl

@[simp] theorem firstError?_cons (call : Call) (calls : List Call) :
    firstError? (call :: calls) = call.failure?.or (firstError? calls) := by
  rw [firstError?, List.findSome?_cons]
  cases call.failure? <;> rfl

namespace Surfaces

variable {calls : List Call} {answer : Except Error α}

theorem of_eq (h : failure? answer = firstError? calls) : Surfaces calls answer :=
  fun _ he => failure?_eq_some_iff.mp (h.trans he)

theorem nil : Surfaces [] answer := fun _ he => (nomatch he)

theorem bind (h : Surfaces calls answer) (f : α → Except Error β) : Surfaces calls (answer.bind f) := by
  intro e he
  rw [h e he]
  rfl

theorem error {e : Error} (h : Surfaces calls (.error e : Except Error α)) :
    Surfaces calls (.error e : Except Error β) :=
  fun e' he => congrArg Except.error (Except.error.inj (h e' he))

-- What is answered by a success hides no failure.
theorem firstError?_eq_none {x : α} (h : Surfaces calls (.ok x)) : firstError? calls = none :=
  Option.eq_none_iff_forall_ne_some.mpr fun e he => (nomatch h e he)

theorem since {s s' : State σ} (hc : s'.calls = s.calls ++ calls) (h : Surfaces calls answer) :
    Surfaces (s.since s') answer := by
  rwa [State.since_eq hc]

end Surfaces

theorem Exchange.surfaces {d : Driver σ} {statement : Statement} {s : State σ} {source : Source}
    {calls : List Call} {answer : Except Error QueryResult} (x : Exchange d statement s source calls answer) :
    Surfaces calls answer := by
  cases x with
  | nowhere | closed => exact .nil
  | unacquired => exact .of_eq rfl
  | within => exact .of_eq (by simp [Call.failure?])
  | fresh => exact .of_eq (by simp [failure?_firstFailure, Call.failure?])

theorem State.since_self (s : State σ) : s.since s = [] := List.drop_length

namespace Handle

variable (d : Driver σ) (h : Handle) (s : State σ)

theorem execute_held (statement : Statement) : (h.execute d statement s).2.held = s.held := by
  cases hs : h.source
  case none => rw [execute_none d statement s hs]
  case driver =>
    rw [execute_driver d statement s hs]
    rcases d.acquire s.driver with ⟨_ | _, _⟩ <;> rfl
  case transaction slot =>
    rw [execute_transaction d statement s hs]
    cases s.held[slot]?.join <;> rfl

theorem run_surfaces (q : Query) (mode : Mode) (l : Layout) :
    Surfaces (s.since (h.run d q mode l s).2) (h.run d q mode l s).1 ∧ (h.run d q mode l s).2.held = s.held := by
  cases hq : q.compile h.dialect
  case error e =>
    rw [run_of_compile_error d h mode l hq, s.since_self]
    exact ⟨.nil, rfl⟩
  case ok statement =>
    obtain ⟨calls, hcalls, exchange⟩ := h.execute_exchange d statement s
    rw [run_of_compile d h mode l hq]
    exact ⟨.since hcalls (exchange.surfaces.bind _), h.execute_held d s statement⟩

theorem begin_surfaces : Surfaces (s.since (h.begin d s).2) (h.begin d s).1 ∧
    ∀ e, (h.begin d s).1 = .error e → (h.begin d s).2.held = s.held := by
  cases hs : h.source
  case none =>
    rw [begin_none d s hs, s.since_self]
    exact ⟨.nil, fun _ _ => rfl⟩
  case transaction slot =>
    rw [begin_transaction d s hs, s.since_self]
    exact ⟨.nil, fun _ _ => rfl⟩
  case driver =>
    rw [begin_driver d s hs]
    rcases d.acquire s.driver with ⟨e | _, driver⟩
    case error => exact ⟨.since rfl (.of_eq rfl), fun _ _ => rfl⟩
    case ok =>
      dsimp only
      rcases d.execute (s.acquired + 1) (.ofText d.dialect.beginStatement) driver with ⟨e | _, driver⟩
      case error => exact ⟨.since rfl (.of_eq rfl), fun _ _ => rfl⟩
      case ok => exact ⟨.since rfl (.of_eq rfl), fun _ he => (nomatch he)⟩

theorem finish_surfaces (f : Finish) : Surfaces (s.since (h.finish d f s).2) (h.finish d f s).1 := by
  cases hs : h.source
  case transaction slot =>
    rw [finish_transaction d s hs]
    cases s.held[slot]?.join
    case none =>
      rw [s.since_self]
      exact .nil
    case some c => exact .since rfl (.of_eq (by simp [failure?_bind, Call.failure?]))
  all_goals
    rw [finish_of_not_transaction d s (by simp [hs]), s.since_self]
    exact .nil

variable {h s} {slot : Nat}

-- What concludes a transaction fails later than what was done in it.
theorem conclude_surfaces (hs : h.source = .transaction slot) (hl : slot < s.held.length)
    (outcome : Except Error α) :
    (h.conclude d outcome s).2.Closed slot ∧ failure? (h.conclude d outcome s).1 =
      (failure? outcome).or (firstError? (s.since (h.conclude d outcome s).2)) := by
  cases hc : s.held[slot]
  case none =>
    have closed : s.Closed slot := by rw [State.Closed, List.getElem?_eq_getElem hl, hc]
    have hj : s.held[slot]?.join = none := by rw [closed]; rfl
    rw [conclude_closed d s hs hj, s.since_self]
    exact ⟨closed, (Option.or_none ..).symm⟩
  case some c =>
    have holds : s.held[slot]? = some (some c) := by rw [List.getElem?_eq_getElem hl, hc]
    obtain ⟨closed, answer, released, hcalls, hresult⟩ := h.conclude_apply d hs holds outcome
    refine ⟨closed, ?_⟩
    rw [State.since_eq hcalls, hresult, failure?_concluded, failure?_bind]
    simp [Call.failure?]

end Handle

namespace Effect

variable {d : Dialect} {acquired acquired' : Nat} {held held' : List (Option Connection)} {new : List Deed}

theorem acquired_le (e : Effect d acquired held new acquired' held') : acquired ≤ acquired' := by
  cases e <;> omega

theorem length_le (e : Effect d acquired held new acquired' held') : held.length ≤ held'.length := by
  cases e <;> simp

-- What is acquired has a number of its own.
theorem lt_of_acquires (e : Effect d acquired held new acquired' held') {c : Nat}
    (h : Call.acquire (.ok c) ∈ new.map Deed.call) : acquired < c := by
  cases e with
  | none away =>
    obtain ⟨x, hx, hc⟩ := List.mem_map.mp h
    have hn := away x hx
    rw [hc] at hn
    cases hn
  | within | finished => simp at h
  | query | begun | unbegun =>
    obtain rfl : c = acquired + 1 := by simpa using h
    exact Nat.lt_succ_self acquired

end Effect

namespace Acts

variable {d : Dialect} {s s' : State σ} {ds : List Deed}

theorem calls_eq (a : Acts d s ds s') : s'.calls = s.calls ++ ds.map Deed.call := by
  induction a with
  | nil => simp
  | cons p _ ih => rw [ih, p.calls]; simp [State.deeds, Function.comp_def]

theorem since_eq (a : Acts d s ds s') : s.since s' = ds.map Deed.call := State.since_eq a.calls_eq

theorem length_le (a : Acts d s ds s') : s.held.length ≤ s'.held.length := by
  induction a with
  | nil => exact Nat.le_refl _
  | cons p _ ih => exact Nat.le_trans p.effect.length_le ih

theorem acquired_le (a : Acts d s ds s') : s.acquired ≤ s'.acquired := by
  induction a with
  | nil => exact Nat.le_refl _
  | cons p _ ih => exact Nat.le_trans p.effect.acquired_le ih

theorem lt_of_acquires (a : Acts d s ds s') {c : Nat} (h : Call.acquire (.ok c) ∈ ds.map Deed.call) :
    s.acquired < c := by
  induction a with
  | nil => cases h
  | cons p _ ih =>
    rw [List.map_append, List.mem_append] at h
    cases h
    case inl h => exact p.effect.lt_of_acquires h
    case inr h => exact Nat.lt_of_le_of_lt p.effect.acquired_le (ih h)

end Acts

-- What becomes of connections between two states of a session, when the calls until then are as they are.
structure Frees (s s' : State σ) : Prop where
  calls : s'.calls = s.calls ++ s.since s'
  -- No transaction has held what is acquired in between.
  fresh : ∀ c, .acquire (.ok c) ∈ s.since s' → some c ∉ s.held
  -- A connection that has been acquired is released once, unless a transaction holds it.
  once : ∀ c, .acquire (.ok c) ∈ s'.calls → some c ∉ s'.held → s'.calls.countP (·.releases c) = 1
  -- It is released in between if it is acquired in between or if a transaction has held it.
  between : ∀ c, .acquire (.ok c) ∈ s.since s' ∨ some c ∈ s.held → some c ∉ s'.held →
    (s.since s').countP (·.releases c) = 1

namespace Ledger

variable {d : Dialect} {ds new : List Deed} {s s' : State σ} {c : Nat}

theorem old_of_acquired (l : Ledger d ds s) (h : .acquire (.ok c) ∈ s.calls) : 0 < c ∧ c ≤ s.acquired := by
  rw [l.calls, mem_calls rfl] at h
  obtain ⟨x, hx, -⟩ := h
  have st := l.standing c
  generalize about c ds = used at st hx
  cases st with
  | fresh => cases hx
  | held old | ended old => exact old

theorem old_of_held (l : Ledger d ds s) (h : some c ∈ s.held) : 0 < c ∧ c ≤ s.acquired := by
  obtain ⟨k, hk⟩ := List.mem_iff_getElem?.mp h
  exact ((l.standing c).of_held hk).1

theorem countP_releases_of_new (l : Ledger d ds s) (h : s.acquired < c) :
    s.calls.countP (·.releases c) = 0 := by
  have st := l.standing c
  rw [l.countP_about]
  generalize about c ds = used at st
  cases st with
  | fresh => rfl
  | held old | ended old => exact absurd old.2 (Nat.not_le_of_lt h)

theorem countP_releases_of_held (l : Ledger d ds s) (h : some c ∈ s.held) :
    s.calls.countP (·.releases c) = 0 := by
  obtain ⟨k, hk⟩ := List.mem_iff_getElem?.mp h
  rw [l.countP_about, List.countP_eq_zero]
  intro x hx hr
  have ⟨answer, ha⟩ := Call.releases_iff.mp hr
  exact (l.standing c).not_isRelease_of_held hk hx ⟨c, answer, ha⟩

-- However a part of a session goes, it releases what it acquires and what transactions cease to hold.
theorem frees (l : Ledger d ds s) (a : Acts d s new s') : Frees s s' := by
  have l' : Ledger d (ds ++ new) s' := a.preserves (P := Ledger d) Ledger.step l
  have hcalls : s'.calls = s.calls ++ s.since s' := by rw [a.since_eq, a.calls_eq]
  have once (c : Connection) (old : 0 < c ∧ c ≤ s'.acquired) (free : some c ∉ s'.held) :
      s'.calls.countP (·.releases c) = 1 :=
    l'.countP_releases_of_free old fun k hk => free (List.mem_iff_getElem?.mpr ⟨k, hk⟩)
  constructor
  case calls => exact hcalls
  case fresh =>
    intro c h held
    exact absurd (a.lt_of_acquires (a.since_eq ▸ h)) (Nat.not_lt_of_le (l.old_of_held held).2)
  case once => exact fun c h => once c (l'.old_of_acquired h)
  case between =>
    intro c h free
    -- before it the connection is not released, since it is not acquired or is held
    have before : s.calls.countP (·.releases c) = 0 := by
      cases h
      case inl h => exact l.countP_releases_of_new (a.lt_of_acquires (a.since_eq ▸ h))
      case inr h => exact l.countP_releases_of_held h
    have old : 0 < c ∧ c ≤ s'.acquired := by
      cases h
      case inl h => exact l'.old_of_acquired (hcalls ▸ List.mem_append_right _ h)
      case inr h => exact (l.old_of_held h).imp_right fun hc => Nat.le_trans hc a.acquired_le
    have total := once c old free
    rwa [hcalls, List.countP_append, before, Nat.zero_add] at total

-- The connection of a transaction that is closed in between is given back.
theorem returns {slot : Nat} (l : Ledger d ds s) (a : Acts d s new s') (holds : s.held[slot]? = some (some c))
    (closed : s'.Closed slot) : some c ∉ s'.held ∧ (s.since s').countP (·.releases c) = 1 := by
  obtain ⟨old, only, -⟩ := (l.standing c).of_held holds
  have owns : Owns slot c s.acquired s.held := ⟨old, fun k => (only k).mp, .inl holds⟩
  have free : some c ∉ s'.held := by
    intro hm
    obtain ⟨k, hk⟩ := List.mem_iff_getElem?.mp hm
    cases (a.owns owns).only k hk
    cases hk.symm.trans closed
  exact ⟨free, (l.frees a).between c (.inr (List.mem_iff_getElem?.mpr ⟨slot, holds⟩)) free⟩

end Ledger

namespace Script

-- What an operation comes to, from the state before to its answer and the state after.
structure Ends (s : State σ) (answer : Except Error α) (s' : State σ) : Prop where
  surfaces : Surfaces (s.since s') answer
  frees : Frees s s'

variable (ω)

-- Which failure operations through a handle end with, and that they free the connections that they do not leave to
-- a transaction.
structure Unmasked (d : Driver σ) (o : Owner) (on : String) (s : Script σ) : Prop where
  run : ∀ q mode l, ∃ answer state,
    reply d (.run on q mode l : Step σ ω) s = (.ran answer, { s with state }) ∧
      Ends s.state answer state ∧ state.held = s.state.held
  begin : ∀ name, ∃ answer after,
    reply d (.begin on name : Step σ ω) s = (.done answer, after) ∧
      Ends s.state answer after.state ∧ ∀ e, answer = .error e → after.state.held = s.state.held
  finish : ∀ f, ∃ answer state,
    reply d (.finish on f : Step σ ω) s = (.done answer, { s with state }) ∧ Ends s.state answer state ∧
      ∀ slot c, o.handle.source = .transaction slot → s.state.held[slot]? = some (some c) →
        some c ∉ state.held ∧ (s.state.since state).countP (·.releases c) = 1
  -- A transaction that does not begin has no body run.
  unbegun : ∀ name body outcome e state, o.handle.begin d s.state = (.error e, state) →
    reply d (.transaction on name body outcome : Step σ ω) s = (.transaction (.error e) [], { s with state }) ∧
      Ends s.state (.error e : Except Error ω) state ∧ state.held = s.state.held
  -- Of one that does the calls to begin it come first, then the body, then the calls to finish it.
  begun : ∀ name body outcome t state, o.handle.begin d s.state = (.ok t, state) →
    let ran := runBody d body (s.entered name t state)
    let result := bodyOutcome ran.1.2 outcome
    ∃ answer after,
      reply d (.transaction on name body outcome : Step σ ω) s = (.transaction answer ran.1.1, after) ∧
      after.state.calls = s.state.calls ++ s.state.since state ++ state.since ran.2.state ++
        ran.2.state.since after.state ∧
      failure? answer = ((firstError? (s.state.since state)).or (failure? result)).or
        (firstError? (ran.2.state.since after.state)) ∧
      Frees s.state after.state ∧
      ∃ c, state.held[s.state.held.length]? = some (some c) ∧ some c ∉ after.state.held ∧
        (state.since after.state).countP (·.releases c) = 1

variable {ω} {d : Driver σ} {h : Handle} {driver : σ} {s : Script σ} {ds : List Deed}

-- Whatever a step does, it frees the connections that it acquires or takes from transactions.
theorem Run.frees (run : Run ω d (start h driver) ds s) (step : Step σ ω) :
    Frees s.state (reply d step s).2.state :=
  run.ledger.frees (reply_acts d step s)

-- At every moment of a session and whatever the driver answers, an operation reports the first failure of those
-- that it meets.
theorem Run.unmasked {on : String} {o : Owner} (run : Run ω d (start h driver) ds s)
    (ho : (owner? on s).1 = some o) : Unmasked ω d o on s := by
  constructor
  case run =>
    intro q mode l
    have frees := run.frees (.run on q mode l)
    rw [reply_run d ho] at frees ⊢
    obtain ⟨surfaces, held⟩ := o.handle.run_surfaces d s.state q mode l
    exact ⟨_, _, rfl, ⟨surfaces, frees⟩, held⟩
  case begin =>
    intro name
    have frees := run.frees (.begin on name)
    obtain ⟨surfaces, held⟩ := o.handle.begin_surfaces d s.state
    rw [reply_begin d ho] at frees ⊢
    rcases hb : o.handle.begin d s.state with ⟨e | t, state⟩
    case error =>
      rw [hb] at frees surfaces held
      exact ⟨_, _, rfl, ⟨surfaces.error, frees⟩, fun _ _ => held e rfl⟩
    case ok =>
      rw [hb] at frees surfaces
      exact ⟨_, _, rfl, ⟨fun e he => (nomatch surfaces e he), frees⟩, fun _ he => (nomatch he)⟩
  case finish =>
    intro f
    have acts := reply_acts d (.finish on f : Step σ ω) s
    rw [reply_finish d ho] at acts ⊢
    refine ⟨_, _, rfl, ⟨o.handle.finish_surfaces d s.state f, run.ledger.frees acts⟩, fun slot c hs hc => ?_⟩
    exact run.ledger.returns acts hc (Handle.finish_closes d hs ⟨c, hc⟩ f)
  case unbegun =>
    intro name body outcome e state hb
    have frees := run.frees (.transaction on name body outcome)
    obtain ⟨surfaces, held⟩ := o.handle.begin_surfaces d s.state
    rw [reply_transaction d ho, hb] at frees ⊢
    rw [hb] at surfaces held
    exact ⟨rfl, ⟨surfaces.error, frees⟩, held e rfl⟩
  case begun =>
    intro name body outcome t state hb
    have frees := run.frees (.transaction on name body outcome)
    have ⟨surfaces, _⟩ := o.handle.begin_surfaces d s.state
    have began := (o.handle.begin_performs d s.state).calls
    rw [hb] at surfaces began
    rw [reply_transaction d ho, hb] at frees ⊢
    have inside : Run ω d (start h driver) _ (s.entered name t state) := run.enter ho hb
    have acts := runBody_acts d body (s.entered name t state)
    dsimp only at frees ⊢
    generalize runBody d body (s.entered name t state) = ran at acts frees ⊢
    have concludes := t.conclude_performs d (bodyOutcome ran.1.2 outcome) ran.2.state
    obtain ⟨ht, hc⟩ := Handle.begin_ok hb
    have hl : s.state.held.length < ran.2.state.held.length :=
      Nat.lt_of_lt_of_le (List.getElem?_eq_some_iff.mp hc).1 acts.length_le
    obtain ⟨closed, hfailure⟩ := Handle.conclude_surfaces d ht hl (bodyOutcome ran.1.2 outcome)
    refine ⟨_, _, rfl, ?_, ?_, frees, _, hc, inside.ledger.returns (acts.append (.single concludes)) hc closed⟩
    case refine_1 =>
      have ran_calls : ran.2.state.calls = state.calls ++ state.since ran.2.state := acts.since_eq ▸ acts.calls_eq
      rw [concludes.calls, ran_calls, began]
    case refine_2 => rw [surfaces.firstError?_eq_none, Option.none_or, hfailure]

-- A transaction that can neither be committed nor have its connection released.
def doomed : List (Step Answers Unit) := [
  .begin firstName "t",
  .prepare (.addExecute (.error (.driver "first"))),
  .prepare (.addRelease (some "second"))]

theorem doomed_unmasked :
    let d := Recorder.full.driver .sqlite
    ∃ ds s, Run Unit d onSqlite ds s ∧ ∃ o : Owner, (owner? "t" s).1 = some o ∧ ∃ state,
      reply d (.finish "t" .commit : Step Answers Unit) s = (.done (.error (.driver "first")), { s with state }) ∧
      (s.state.since state).filterMap Call.failure? = [.driver "first", .driver "second"] ∧
      (s.state.since state).countP (·.releases 1) = 1 := by
  have first : Run Unit (Recorder.full.driver .sqlite) onSqlite [] onSqlite := .nil
  have ⟨ds, run⟩ := first.all doomed
  have named : (owner? "t" (runAll (Recorder.full.driver .sqlite) doomed onSqlite).2).1.map Owner.handle =
      some ⟨.sqlite, .transaction 0, {}⟩ := by decide +kernel
  have held : (runAll (Recorder.full.driver .sqlite) doomed onSqlite).2.state.held[0]? = some (some 1) := by
    decide +kernel
  have failures : ((runAll (Recorder.full.driver .sqlite) doomed onSqlite).2.state.since
      (reply (Recorder.full.driver .sqlite) (.finish "t" .commit : Step Answers Unit)
        (runAll (Recorder.full.driver .sqlite) doomed onSqlite).2).2.state).filterMap Call.failure? =
      [.driver "first", .driver "second"] := by decide +kernel
  obtain ⟨o, ho, handle⟩ := Option.map_eq_some_iff.mp named
  obtain ⟨answer, state, hr, ends, returned⟩ := (run.unmasked ho).finish .commit
  rw [hr] at failures
  dsimp only at failures
  have answered : answer = .error (.driver "first") := by
    refine ends.surfaces _ ?_
    rw [firstError?, ← List.head?_filterMap, failures]
    rfl
  rw [answered] at hr
  exact ⟨_, _, run, o, ho, state, hr, failures, (returned 0 1 (by rw [handle]) held).2⟩

end Script

end SqlBuilder.Session
