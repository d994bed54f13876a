import SqlBuilder.Session.Fetch
/-!
What the operations through a handle do, by where the handle gets its connections from: their results,
the calls they make, and all else that changes.
-/
namespace SqlBuilder.Session

open Sql

variable {σ : Type}

-- Closing what is not open changes nothing.
theorem State.set_held_eq (s : State σ) {slot : Nat} (h : s.held[slot]?.join = none) :
    s.held.set slot none = s.held := by
  apply List.ext_getElem?
  intro i
  rw [List.getElem?_set]
  split
  case isFalse => rfl
  case isTrue hi =>
    subst hi
    cases hc : s.held[slot]?
    case none => simp [List.getElem?_eq_none_iff.mp hc]
    case some c =>
      have hn : c = none := by simpa [hc] using h
      have hl : slot < s.held.length := (List.getElem?_eq_some_iff.mp hc).1
      simp [hn, hl]

namespace Action

variable {α β : Type}

theorem bind_apply (a : Action σ α) (f : α → Action σ β) (s : State σ) :
    (a >>= f) s = f (a s).1 (a s).2 := rfl

theorem pure_apply (x : α) (s : State σ) : (pure x : Action σ α) s = (x, s) := rfl

theorem execute_apply (d : Driver σ) (c : Connection) (statement : Statement) (s : State σ) :
    execute d c statement s =
      let answer := d.execute c statement s.driver
      (answer.1, { s with driver := answer.2, calls := s.calls ++ [.execute c statement answer.1] }) := rfl

theorem release_apply (d : Driver σ) (c : Connection) (s : State σ) :
    release d c s =
      let answer := d.release c s.driver
      (answer.1, { s with driver := answer.2, calls := s.calls ++ [.release c answer.1] }) := rfl

end Action

-- How a transaction is finished when all that was done in it had an outcome.
def finishOf {α : Type} : Except Error α → Finish
  | .ok _ => .commit
  | .error _ => .rollback

-- The outcome of a transaction that is finished because of an outcome of what was done in it.
def concluded {α : Type} (outcome : Except Error α) (finished : Except Error Unit) : Except Error α :=
  outcome.bind fun x => finished.map fun _ => x

namespace Handle

variable {h : Handle} {slot : Nat} (d : Driver σ) (statement : Statement) (s : State σ)

theorem execute_none (hs : h.source = .none) :
    h.execute d statement s = (.error .noExecutor, { s with
      logs := s.logs ++ h.log.entries statement (d.duration statement s.driver) (some .noExecutor) }) := by
  simp only [execute, hs]
  rfl

theorem execute_driver (hs : h.source = .driver) :
    h.execute d statement s =
      match d.acquire s.driver with
      | (.error e, driver) => (.error e, { s with driver, calls := s.calls ++ [.acquire (.error e)] })
      | (.ok (), driver) =>
        let c := s.acquired + 1
        let answer := d.execute c statement driver
        let released := d.release c answer.2
        let outcome := firstFailure answer.1 released.1
        (outcome, { s with
          driver := released.2
          acquired := c
          calls := s.calls ++ [.acquire (.ok c), .execute c statement answer.1, .release c released.1]
          logs := s.logs ++ h.log.entries statement (d.duration statement released.2) (failure? outcome) }) := by
  simp only [execute, hs, Action.bind_apply, Action.acquire]
  rcases d.acquire s.driver with ⟨⟨⟩ | ⟨⟩, driver⟩
  case error => rfl
  case ok =>
    simp only [Action.bind_apply, Action.execute_apply, Action.release_apply, List.append_assoc]
    rfl

theorem execute_transaction (hs : h.source = .transaction slot) :
    h.execute d statement s =
      match s.held[slot]?.join with
      | some c =>
        let answer := d.execute c statement s.driver
        (answer.1, { s with
          driver := answer.2
          calls := s.calls ++ [.execute c statement answer.1]
          logs := s.logs ++ h.log.entries statement (d.duration statement answer.2) (failure? answer.1) })
      | none => (.error .transactionClosed, { s with
          logs := s.logs ++
            h.log.entries statement (d.duration statement s.driver) (some .transactionClosed) }) := by
  simp only [execute, hs, Action.bind_apply, Action.heldBy]
  cases s.held[slot]?.join <;> rfl

theorem begin_none (hs : h.source = .none) : h.begin d s = (.error .noExecutor, s) := by
  simp only [begin, hs, Action.pure_apply]

theorem begin_transaction (hs : h.source = .transaction slot) :
    h.begin d s = (.error .nestedTransaction, s) := by
  simp only [begin, hs, Action.pure_apply]

theorem begin_driver (hs : h.source = .driver) :
    h.begin d s =
      match d.acquire s.driver with
      | (.error e, driver) => (.error e, { s with driver, calls := s.calls ++ [.acquire (.error e)] })
      | (.ok (), driver) =>
        let c := s.acquired + 1
        let statement := .ofText d.dialect.beginStatement
        match d.execute c statement driver with
        | (.error e, driver) =>
          let released := d.release c driver
          (.error e, { s with
            driver := released.2
            acquired := c
            calls := s.calls ++ [.acquire (.ok c), .execute c statement (.error e), .release c released.1]
            logs := s.logs ++ ((failure? released.1).map .releaseFailed).toList })
        | (.ok answer, driver) =>
          (.ok { h with source := .transaction s.held.length }, { s with
            driver
            acquired := c
            held := s.held ++ [some c]
            calls := s.calls ++ [.acquire (.ok c), .execute c statement (.ok answer)]
            logs := s.logs ++ [.began] }) := by
  simp only [begin, hs, Action.bind_apply, Action.acquire]
  rcases d.acquire s.driver with ⟨⟨⟩ | ⟨⟩, driver⟩
  case error => rfl
  case ok =>
    simp only [Action.bind_apply, Action.execute_apply, List.append_assoc]
    rcases d.execute (s.acquired + 1) (.ofText d.dialect.beginStatement) driver with
      ⟨⟨⟩ | ⟨⟩, driver⟩
    case error e =>
      simp only [Action.bind_apply, Action.release_apply, List.append_assoc]
      rcases d.release (s.acquired + 1) driver with ⟨⟨⟩ | ⟨⟩, driver⟩
      case error => rfl
      case ok => simp [failure?, Action.pure_apply]
    case ok => rfl

theorem isOpen_transaction (hs : h.source = .transaction slot) :
    h.isOpen s = (s.held[slot]?.join.isSome, s) := by
  simp only [isOpen, hs]
  rfl

theorem isOpen_state (h : Handle) : (h.isOpen s).2 = s := by
  obtain ⟨dialect, source, log⟩ := h
  cases source <;> rfl

theorem finish_transaction (hs : h.source = .transaction slot) (f : Finish) :
    h.finish d f s =
      match s.held[slot]?.join with
      | none => (.error .transactionClosed, s)
      | some c =>
        let answer := d.execute c f.statement s.driver
        let released := d.release c answer.2
        (answer.1.bind fun _ => released.1, { s with
          driver := released.2
          held := s.held.set slot none
          calls := s.calls ++ [.execute c f.statement answer.1, .release c released.1]
          logs := s.logs ++ [match answer.1 with
            | .ok _ => .finished f.label
            | .error e => .finishFailed f.label e] }) := by
  simp only [finish, hs, Action.bind_apply, Action.takeHeld]
  cases hc : s.held[slot]?.join
  case none => simp [Action.pure_apply, s.set_held_eq hc]
  case some c =>
    simp only [Action.bind_apply, Action.execute_apply, Action.release_apply, List.append_assoc]
    cases (d.execute c f.statement s.driver).1 <;> rfl

-- Without a transaction there is nothing to finish.
theorem finish_of_not_transaction (hs : ∀ slot, h.source ≠ .transaction slot) (f : Finish) :
    h.finish d f s = (.error .transactionClosed, s) := by
  obtain ⟨dialect, source, log⟩ := h
  cases source
  case transaction slot => exact absurd rfl (hs slot)
  all_goals rfl

theorem conclude_closed {α : Type} (hs : h.source = .transaction slot)
    (hc : s.held[slot]?.join = none) (outcome : Except Error α) :
    h.conclude d outcome s = (outcome, s) := by
  cases outcome <;> simp [conclude, Action.bind_apply, isOpen_transaction s hs, hc, Action.pure_apply]

theorem conclude_open {α : Type} {c : Connection} (hs : h.source = .transaction slot)
    (hc : s.held[slot]?.join = some c) (outcome : Except Error α) :
    h.conclude d outcome s =
      let finished := h.finish d (finishOf outcome) s
      (concluded outcome finished.1, { finished.2 with
        logs := finished.2.logs ++ match outcome, finished.1 with
          | .error _, .error e => [.rollbackFailed e]
          | _, _ => [] }) := by
  cases outcome
  case ok x =>
    simp only [conclude, Action.bind_apply, isOpen_transaction s hs, hc, finishOf]
    generalize hf : h.finish d .commit s = finished
    rw [Option.isSome_some, if_pos rfl, Action.bind_apply, hf, List.append_nil]
    obtain ⟨_ | _, s'⟩ := finished <;> rfl
  case error e =>
    simp only [conclude, Action.bind_apply, isOpen_transaction s hs, hc, finishOf]
    generalize hf : h.finish d .rollback s = finished
    rw [Option.isSome_some, if_pos rfl, Action.bind_apply, hf]
    obtain ⟨_ | _, s'⟩ := finished
    case error => rfl
    case ok => simp [Action.pure_apply, concluded, Except.bind]

end Handle

end SqlBuilder.Session
