import SqlBuilder.Proofs.Session.Handle
/-!
What an operation through a handle can do to the connections of a session: the calls it makes, the
number of connections acquired after it and the connections then held by transactions.
-/
namespace SqlBuilder

namespace Sql

-- The statements that drivers get for queries, as opposed to those that begin and finish transactions.
def Statement.IsCompiled (s : Statement) : Prop := ∃ d q, Query.compile d q = .ok s

end Sql

namespace Session

open Sql

-- What a call is made for.
inductive Purpose where
  | query | begin | finish (f : Finish) | destroy
  deriving DecidableEq

-- A call that was made, with the source of the handle that it was made through.
structure Deed where
  source : Source
  purpose : Purpose
  call : Call

-- From the connections acquired and held before to what is done and the connections acquired and held
-- after.
inductive Effect (d : Dialect) (acquired : Nat) (held : List (Option Connection)) :
    List Deed → Nat → List (Option Connection) → Prop
  -- at most calls that are about no connection
  | none (away : ∀ x ∈ ds, x.call.connection? = none) : Effect d acquired held ds acquired held
  -- a query on a connection of its own
  | query (compiled : s.IsCompiled) :
    Effect d acquired held
      [⟨.driver, .query, .acquire (.ok (acquired + 1))⟩,
        ⟨.driver, .query, .execute (acquired + 1) s answer⟩,
        ⟨.driver, .query, .release (acquired + 1) released⟩]
      (acquired + 1) held
  -- a query on the connection of the handle's transaction
  | within (isOpen : held[slot]? = some (some c)) (compiled : s.IsCompiled) :
    Effect d acquired held [⟨.transaction slot, .query, .execute c s answer⟩] acquired held
  | begun :
    Effect d acquired held
      [⟨.driver, .begin, .acquire (.ok (acquired + 1))⟩,
        ⟨.driver, .begin, .execute (acquired + 1) (.ofText d.beginStatement) (.ok answer)⟩]
      (acquired + 1) (held ++ [some (acquired + 1)])
  | unbegun :
    Effect d acquired held
      [⟨.driver, .begin, .acquire (.ok (acquired + 1))⟩,
        ⟨.driver, .begin, .execute (acquired + 1) (.ofText d.beginStatement) (.error e)⟩,
        ⟨.driver, .begin, .release (acquired + 1) released⟩]
      (acquired + 1) held
  | finished (isOpen : held[slot]? = some (some c)) :
    Effect d acquired held
      [⟨.transaction slot, .finish f, .execute c f.statement answer⟩,
        ⟨.transaction slot, .finish f, .release c released⟩]
      acquired (held.set slot Option.none)

-- The connections held once another transaction has begun.
theorem getElem?_hold (held : List (Option Connection)) (c : Connection) (k : Nat) :
    (held ++ [some c])[k]? = if held.length = k then some (some c) else held[k]? := by
  split
  case isTrue h => simp [← h]
  case isFalse h =>
    cases Nat.lt_or_gt_of_ne h
    case inl hk =>
      have hn : (held ++ [some c]).length ≤ k := by simpa using Nat.succ_le_of_lt hk
      rw [List.getElem?_eq_none hn, List.getElem?_eq_none (Nat.le_of_lt hk)]
    case inr hk => exact List.getElem?_append_left hk

-- The connections held once an open transaction has been closed.
theorem getElem?_close {held : List (Option Connection)} {slot : Nat} {c : Connection}
    (isOpen : held[slot]? = some (some c)) (k : Nat) :
    (held.set slot none)[k]? = if slot = k then some none else held[k]? := by
  rw [List.getElem?_set, if_pos (List.getElem?_eq_some_iff.mp isOpen).1]

variable {σ : Type}

-- The calls between two states of a session.
def State.since (s s' : State σ) : List Call := s'.calls.drop s.calls.length

-- The calls between two states, made through handles with one source and for one purpose.
def State.deeds (source : Source) (purpose : Purpose) (s s' : State σ) : List Deed :=
  (s.since s').map (Deed.mk source purpose)

-- A part of a session in which at most one operation has an effect.
structure Performs (d : Dialect) (source : Source) (purpose : Purpose) (s s' : State σ) : Prop where
  calls : s'.calls = s.calls ++ s.since s'
  effect : Effect d s.acquired s.held (s.deeds source purpose s') s'.acquired s'.held

namespace Performs

variable {d : Dialect} {source : Source} {purpose : Purpose} {s s' : State σ}

theorem of_calls {calls : List Call} (hc : s'.calls = s.calls ++ calls)
    (e : Effect d s.acquired s.held (calls.map (Deed.mk source purpose)) s'.acquired s'.held) :
    Performs d source purpose s s' := by
  have h : s.since s' = calls := by simp [State.since, hc]
  constructor
  case calls => rw [h, hc]
  case effect => rwa [State.deeds, h]

-- Nothing is done to the connections if all that changes is the driver and the logs.
theorem idle (hc : s'.calls = s.calls) (ha : s'.acquired = s.acquired) (hh : s'.held = s.held) :
    Performs d source purpose s s' := by
  have hn : s'.calls = s.calls ++ [] := by simp [hc]
  apply of_calls hn
  rw [ha, hh]
  exact .none (by simp)

end Performs

namespace Handle

variable (d : Driver σ) (h : Handle)

theorem execute_performs {statement : Statement} (compiled : statement.IsCompiled) (s : State σ) :
    Performs d.dialect h.source .query s (h.execute d statement s).2 := by
  cases hs : h.source
  case none =>
    rw [execute_none d statement s hs]
    exact .idle rfl rfl rfl
  case driver =>
    rw [execute_driver d statement s hs]
    rcases d.acquire s.driver with ⟨e | _, driver⟩
    case error => exact .of_calls rfl (.none (by simp [Call.connection?]))
    case ok => exact .of_calls rfl (.query compiled)
  case transaction slot =>
    rw [execute_transaction d statement s hs]
    cases hc : s.held[slot]?.join
    case none => exact .idle rfl rfl rfl
    case some c => exact .of_calls rfl (.within (Option.join_eq_some_iff.mp hc) compiled)

theorem run_performs (q : Query) (mode : Mode) (l : Layout) (s : State σ) :
    Performs d.dialect h.source .query s (h.run d q mode l s).2 := by
  unfold run
  cases hq : q.compile h.dialect
  case error e => exact .idle rfl rfl rfl
  case ok statement =>
    have hp := h.execute_performs d ⟨h.dialect, q, hq⟩ s
    simp only [Action.bind_apply]
    cases (h.execute d statement s).1 <;> exact hp

theorem begin_performs (s : State σ) :
    Performs d.dialect h.source .begin s (h.begin d s).2 := by
  cases hs : h.source
  case none =>
    rw [begin_none d s hs]
    exact .idle rfl rfl rfl
  case transaction slot =>
    rw [begin_transaction d s hs]
    exact .idle rfl rfl rfl
  case driver =>
    rw [begin_driver d s hs]
    rcases d.acquire s.driver with ⟨e | _, driver⟩
    case error => exact .of_calls rfl (.none (by simp [Call.connection?]))
    case ok =>
      dsimp only
      rcases d.execute (s.acquired + 1) (.ofText d.dialect.beginStatement) driver with ⟨e | answer, driver⟩
      case error => exact .of_calls rfl .unbegun
      case ok => exact .of_calls rfl .begun

theorem finish_performs (f : Finish) (s : State σ) :
    Performs d.dialect h.source (.finish f) s (h.finish d f s).2 := by
  cases hs : h.source
  case transaction slot =>
    rw [finish_transaction d s hs]
    cases hc : s.held[slot]?.join
    case none => exact .idle rfl rfl rfl
    case some c => exact .of_calls rfl (.finished (Option.join_eq_some_iff.mp hc))
  all_goals
    rw [finish_of_not_transaction d s (by simp [hs])]
    exact .idle rfl rfl rfl

theorem conclude_performs {α : Type} (outcome : Except Error α) (s : State σ) :
    Performs d.dialect h.source (.finish (finishOf outcome)) s (h.conclude d outcome s).2 := by
  cases hs : h.source
  case transaction slot =>
    cases hc : s.held[slot]?.join
    case none =>
      rw [conclude_closed d s hs hc]
      exact .idle rfl rfl rfl
    case some c =>
      rw [conclude_open d s hs hc]
      have hp := h.finish_performs d (finishOf outcome) s
      exact ⟨hp.calls, hs ▸ hp.effect⟩
  all_goals
    have hn : h.conclude d outcome s = (outcome, s) := by
      cases outcome <;> simp [conclude, isOpen, hs, Action.bind_apply, Action.pure_apply]
    rw [hn]
    exact .idle rfl rfl rfl

theorem destroy_performs (s : State σ) :
    Performs d.dialect h.source .destroy s (h.destroy d s).2 := by
  cases hs : h.source
  case none =>
    simp only [destroy, hs]
    exact .idle rfl rfl rfl
  all_goals
    simp only [destroy, hs]
    exact .of_calls rfl (.none (by simp [Call.connection?]))

end Handle

end Session

end SqlBuilder
