import Mathlib.Control.Monad.Basic
import SqlBuilder.Proofs.Session.Life
/-!
What is sent to the driver when a query is run. A query that does not compile sends nothing, and any other
sends its statement at most once, on the connection of the handle's transaction or on one acquired for it.
-/
namespace SqlBuilder.Session

open Sql

variable {σ ω : Type}

-- The statement that a call executes, with the connection that it is executed on.
def Call.executed? : Call → Option (Connection × Statement)
  | execute c statement _ => some (c, statement)
  | _ => none

-- The statements that are executed between two states of a session.
def State.executed (s s' : State σ) : List (Connection × Statement) := (s.since s').filterMap Call.executed?

theorem State.since_eq {s s' : State σ} {calls : List Call} (h : s'.calls = s.calls ++ calls) :
    s.since s' = calls := by
  rw [since, h, List.drop_left]

-- The calls that a statement leads to from a state on, with the answer to it, by where connections come from.
inductive Exchange (d : Driver σ) (statement : Statement) (s : State σ) :
    Source → List Call → Except Error QueryResult → Prop
  | nowhere : Exchange d statement s .none [] (.error .noExecutor)
  | within (isOpen : s.held[slot]? = some (some c)) :
    Exchange d statement s (.transaction slot) [.execute c statement answer] answer
  | closed (isClosed : s.held[slot]?.join = none) :
    Exchange d statement s (.transaction slot) [] (.error .transactionClosed)
  | fresh (acquires : (d.acquire s.driver).1 = .ok ()) :
    Exchange d statement s .driver
      [.acquire (.ok (s.acquired + 1)), .execute (s.acquired + 1) statement answer,
        .release (s.acquired + 1) released]
      (firstFailure answer released)
  | unacquired (refuses : (d.acquire s.driver).1 = .error e) :
    Exchange d statement s .driver [.acquire (.error e)] (.error e)

theorem Exchange.executed {d : Driver σ} {statement : Statement} {s : State σ} {source : Source}
    {calls : List Call} {answer : Except Error QueryResult} (x : Exchange d statement s source calls answer) :
    calls.filterMap Call.executed? = [] ∨ ∃ c, calls.filterMap Call.executed? = [(c, statement)] := by
  cases x with
  | nowhere | closed | unacquired => exact .inl rfl
  | within | fresh => exact .inr ⟨_, rfl⟩

namespace Handle

variable (d : Driver σ) (h : Handle) {q : Query} {statement : Statement} (mode : Mode) (l : Layout)

theorem execute_exchange (statement : Statement) (s : State σ) :
    ∃ calls, (h.execute d statement s).2.calls = s.calls ++ calls ∧
      Exchange d statement s h.source calls (h.execute d statement s).1 := by
  cases hs : h.source
  case none =>
    rw [execute_none d statement s hs]
    exact ⟨[], (List.append_nil _).symm, .nowhere⟩
  case driver =>
    rw [execute_driver d statement s hs]
    rcases ha : d.acquire s.driver with ⟨e | _, driver⟩
    case error => exact ⟨_, rfl, .unacquired (by rw [ha])⟩
    case ok => exact ⟨_, rfl, .fresh (by rw [ha])⟩
  case transaction slot =>
    rw [execute_transaction d statement s hs]
    cases hc : s.held[slot]?.join
    case none => exact ⟨[], (List.append_nil _).symm, .closed hc⟩
    case some c => exact ⟨_, rfl, .within (Option.join_eq_some_iff.mp hc)⟩

theorem run_of_compile_error {e : Error} (hq : q.compile h.dialect = .error e) (s : State σ) :
    h.run d q mode l s = (.error e, s) := by
  simp only [run, hq, Action.pure_apply]

theorem run_of_compile (hq : q.compile h.dialect = .ok statement) (s : State σ) :
    h.run d q mode l s =
      ((h.execute d statement s).1.bind (Outcome.ofResult q.kind mode l), (h.execute d statement s).2) := by
  simp only [run, hq, Action.bind_apply]
  cases (h.execute d statement s).1 <;> rfl

-- What running a statement through a handle does, from the state before to its result and the state after.
structure Sends (statement : Statement) (s : State σ) (result : Except Error Outcome) (s' : State σ) : Prop where
  calls : s'.calls = s.calls ++ s.since s'
  -- At most one statement is executed, and no other than the one that is run.
  executed : s.executed s' = [] ∨ ∃ c, s.executed s' = [(c, statement)]
  nowhere : h.source = .none → s.since s' = [] ∧ result = .error .noExecutor
  -- A handle of a transaction uses the connection that the transaction holds.
  within : ∀ slot c, h.source = .transaction slot → s.held[slot]? = some (some c) →
    ∃ answer, s.since s' = [.execute c statement answer]
  closed : ∀ slot, h.source = .transaction slot → (∀ c, s.held[slot]? ≠ some (some c)) →
    s.since s' = [] ∧ result = .error .transactionClosed
  -- Any other uses a connection that is acquired for the statement and that nothing was done with before.
  fresh : h.source = .driver → (d.acquire s.driver).1 = .ok () → ∃ c answer released,
    s.since s' = [.acquire (.ok c), .execute c statement answer, .release c released] ∧
      ∀ call ∈ s.calls, call.connection? ≠ some c
  unacquired : ∀ e, h.source = .driver → (d.acquire s.driver).1 = .error e →
    s.since s' = [.acquire (.error e)] ∧ result = .error e

variable {d h} {s s' : State σ}

-- Where the handle gets a connection from tells which of the exchanges it is.
theorem sends_of_exchange {calls : List Call} {answer : Except Error QueryResult}
    (hcalls : s'.calls = s.calls ++ calls) (exchange : Exchange d statement s h.source calls answer)
    (unused : ∀ call ∈ s.calls, call.connection? ≠ some (s.acquired + 1))
    (read : QueryResult → Except Error Outcome) : h.Sends d statement s (answer.bind read) s' := by
  have since := State.since_eq hcalls
  constructor
  case calls => rw [since, hcalls]
  case executed =>
    rw [State.executed, since]
    exact exchange.executed
  all_goals rw [since]
  case nowhere =>
    intro hs
    cases hs ▸ exchange
    exact ⟨rfl, rfl⟩
  case within =>
    intro slot c hs hc
    cases hs ▸ exchange with
    | within isOpen =>
      cases hc.symm.trans isOpen
      exact ⟨_, rfl⟩
    | closed isClosed => simp [hc] at isClosed
  case closed =>
    intro slot hs hc
    cases hs ▸ exchange with
    | within isOpen => exact absurd isOpen (hc _)
    | closed => exact ⟨rfl, rfl⟩
  case fresh =>
    intro hs ha
    cases hs ▸ exchange with
    | fresh => exact ⟨_, _, _, rfl, unused⟩
    | unacquired refuses => cases ha.symm.trans refuses
  case unacquired =>
    intro e hs ha
    cases hs ▸ exchange with
    | fresh acquires => cases ha.symm.trans acquires
    | unacquired refuses =>
      cases ha.symm.trans refuses
      exact ⟨rfl, rfl⟩

theorem sends_run (hq : q.compile h.dialect = .ok statement)
    (unused : ∀ call ∈ s.calls, call.connection? ≠ some (s.acquired + 1)) :
    h.Sends d statement s (h.run d q mode l s).1 (h.run d q mode l s).2 := by
  obtain ⟨calls, hcalls, exchange⟩ := h.execute_exchange d statement s
  rw [run_of_compile d h mode l hq]
  exact sends_of_exchange hcalls exchange unused _

end Handle

namespace Script

variable {d : Driver σ} {h : Handle} {driver : σ} {s : Script σ} {ds : List Deed}

-- Nothing was done with the connection that is acquired next.
theorem Run.unused (run : Run ω d (start h driver) ds s) :
    ∀ call ∈ s.state.calls, call.connection? ≠ some (s.state.acquired + 1) := by
  intro call hm hc
  rw [run.ledger.calls, Deed.mem_calls hc] at hm
  obtain ⟨x, hx, _⟩ := hm
  rw [(run.ledger.standing (s.state.acquired + 1)).next.1] at hx
  exact absurd hx List.not_mem_nil

-- At every moment of a session and whatever the driver answers, a query that is run sends the statement that it
-- compiles to and nothing else, and one that does not compile changes nothing.
theorem Run.sends_compiled {on : String} {o : Owner} (run : Run ω d (start h driver) ds s)
    (ho : (owner? on s).1 = some o) (q : Query) (mode : Mode) (l : Layout) :
    match q.compile o.handle.dialect with
    | .error e => reply d (.run on q mode l : Step σ ω) s = (.ran (.error e), s)
    | .ok statement => ∃ result state,
      reply d (.run on q mode l : Step σ ω) s = (.ran result, { s with state }) ∧
        o.handle.Sends d statement s.state result state := by
  have hr : reply d (.run on q mode l : Step σ ω) s =
      (.ran (o.handle.run d q mode l s.state).1, { s with state := (o.handle.run d q mode l s.state).2 }) := by
    simp only [reply, withHandle_apply, ho, bind_apply, act_apply, pure_apply]
  cases hq : q.compile o.handle.dialect
  case error e => rw [hr, Handle.run_of_compile_error d o.handle mode l hq]
  case ok statement => exact ⟨_, _, hr, Handle.sends_run mode l hq run.unused⟩

-- A query through a transaction, behind one outside of it whose connection is given back already.
def confined : List (Step Answers Unit) := [
  .run firstName (.delete ⟨[], ⟨"pet", none⟩, []⟩) .all .row,
  .begin firstName "t"]

def dismissal : Query := .delete ⟨[], ⟨"person", none⟩, [
  ⟨.and, .compare (.column ⟨"person", "id"⟩) .eq (.value (.i32 7))⟩]⟩

def dismissed : Statement := ⟨"delete from \"person\" where \"id\" = ?1", [.i32 7], .delete⟩

theorem confined_sends :
    let d := Recorder.full.driver .sqlite
    ∃ ds s, Run Unit d onSqlite ds s ∧ ∃ o : Owner, (owner? "t" s).1 = some o ∧
      dismissal.compile o.handle.dialect = .ok dismissed ∧ ∃ result state,
        reply d (.run "t" dismissal .all .row : Step Answers Unit) s = (.ran result, { s with state }) ∧
        o.handle.Sends d dismissed s.state result state ∧ s.state.executed state = [(2, dismissed)] := by
  have first : Run Unit (Recorder.full.driver .sqlite) onSqlite [] onSqlite := .nil
  have ⟨ds, run⟩ := first.all confined
  have named : (owner? "t" (runAll (Recorder.full.driver .sqlite) confined onSqlite).2).1.map Owner.handle =
      some ⟨.sqlite, .transaction 0, {}⟩ := by decide +kernel
  have held : (runAll (Recorder.full.driver .sqlite) confined onSqlite).2.state.held[0]? = some (some 2) := by
    decide +kernel
  obtain ⟨o, ho, handle⟩ := Option.map_eq_some_iff.mp named
  have hq : dismissal.compile o.handle.dialect = .ok dismissed := by
    rw [handle]
    decide +kernel
  have h := run.sends_compiled ho dismissal .all .row
  rw [hq] at h
  obtain ⟨result, state, hr, sends⟩ := h
  obtain ⟨answer, since⟩ := sends.within 0 2 (by rw [handle]) held
  exact ⟨_, _, run, o, ho, hq, result, state, hr, sends, by rw [State.executed, since]; rfl⟩

end Script

end SqlBuilder.Session
