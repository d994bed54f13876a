import SqlBuilder.Proofs.Session.Run
/-!
Transactions are finished once, whichever of their handles that is done through, and are of no use
afterwards.
-/
namespace SqlBuilder.Session

open Sql

variable {σ ω : Type}

def State.Open (s : State σ) (slot : Nat) : Prop := ∃ c, s.held[slot]? = some (some c)

def State.Closed (s : State σ) (slot : Nat) : Prop := s.held[slot]? = some none

instance (s : State σ) (slot : Nat) : Decidable (s.Closed slot) :=
  inferInstanceAs (Decidable (s.held[slot]? = some none))

-- Whether a statement is sent that finishes a transaction.
def Deed.finishes (slot : Nat) : Deed → Bool
  | ⟨source, .finish _, .execute ..⟩ => source = .transaction slot
  | _ => false

theorem Deed.finishes_eq_false {slot : Nat} {x : Deed} (h : x.call.connection? = none) :
    x.finishes slot = false := by
  obtain ⟨_, _ | _ | _ | _, _ | _ | _ | _⟩ := x
  all_goals first | rfl | cases h

namespace Effect

variable {d : Dialect} {acquired acquired' : Nat} {held held' : List (Option Connection)}
  {new : List Deed} {k : Nat}

-- A transaction is closed exactly when the statement that finishes it is sent.
theorem countP_finishes (e : Effect d acquired held new acquired' held') :
    (if held[k]? = some Option.none then 1 else 0) + new.countP (·.finishes k) =
      if held'[k]? = some Option.none then 1 else 0 := by
  cases e with
  | none away =>
    have h : new.countP (·.finishes k) = 0 :=
      List.countP_eq_zero.mpr fun x hx => by simp [Deed.finishes_eq_false (away x hx)]
    rw [h, Nat.add_zero]
  | query | within | unbegun => rfl
  | begun =>
    rw [getElem?_hold]
    by_cases hk : held.length = k
    case pos =>
      subst hk
      simp [Deed.finishes]
    case neg =>
      rw [if_neg hk]
      rfl
  | @finished slot c₀ _ _ _ isOpen =>
    rw [getElem?_close isOpen]
    by_cases hk : slot = k
    case pos =>
      subst hk
      simp [isOpen, Deed.finishes]
    case neg => simp [hk, Deed.finishes]

-- Closed transactions stay closed, and nothing is done through their handles.
theorem closed (e : Effect d acquired held new acquired' held') (hc : held[k]? = some Option.none) :
    held'[k]? = some Option.none ∧
      ∀ x ∈ new, x.source = .transaction k → x.call.connection? = Option.none := by
  cases e with
  | none away => exact ⟨hc, fun x hx _ => away x hx⟩
  | query | unbegun => exact ⟨hc, by simp⟩
  | @within slot _ _ _ isOpen =>
    have hk : slot ≠ k := fun hk => by simp [← hk, isOpen] at hc
    exact ⟨hc, by simp [hk]⟩
  | begun =>
    refine ⟨?_, by simp⟩
    have hk : held.length ≠ k := fun hk => by simp [← hk] at hc
    rwa [getElem?_hold, if_neg hk]
  | @finished slot _ _ _ _ isOpen =>
    have hk : slot ≠ k := fun hk => by simp [← hk, isOpen] at hc
    rw [getElem?_close isOpen, if_neg hk]
    exact ⟨hc, by simp [hk]⟩

-- What is done through the handles of one transaction does not concern another one.
theorem apart {slot : Nat} (e : Effect d acquired held new acquired' held')
    (all : ∀ x ∈ new, x.source = .transaction slot) (hk : k ≠ slot) : held'[k]? = held[k]? := by
  cases e with
  | none | within => rfl
  | query | begun | unbegun => simp at all
  | finished isOpen =>
    simp at all
    rw [getElem?_close isOpen, all, if_neg hk.symm]

end Effect

namespace Handle

variable {h : Handle} {slot : Nat} {s : State σ} (d : Driver σ)

theorem finish_closed (hs : h.source = .transaction slot) (hc : s.Closed slot) (f : Finish) :
    h.finish d f s = (.error .transactionClosed, s) := by
  rw [finish_transaction d s hs, hc]
  rfl

-- A query on a closed transaction is logged, and that is all.
theorem run_closed {q : Query} {statement : Statement} (hs : h.source = .transaction slot)
    (hc : s.Closed slot) (hq : q.compile h.dialect = .ok statement) (mode : Mode) (l : Layout) :
    h.run d q mode l s = (.error .transactionClosed, { s with
      logs := s.logs ++
        h.log.entries statement (d.duration statement s.driver) (some .transactionClosed) }) := by
  simp only [run, hq, Action.bind_apply, execute_transaction d statement s hs]
  rw [hc]
  rfl

-- Whatever the driver answers, the transaction is closed.
theorem finish_closes (hs : h.source = .transaction slot) (ho : s.Open slot) (f : Finish) :
    (h.finish d f s).2.Closed slot := by
  have ⟨c, hc⟩ := ho
  rw [finish_transaction d s hs, hc]
  simp [State.Closed, getElem?_close hc]

end Handle

namespace Acts

variable {d : Dialect} {s s' : State σ} {ds : List Deed} {slot : Nat}

theorem closed (a : Acts d s ds s') (hc : s.Closed slot) :
    s'.Closed slot ∧ ∀ x ∈ ds, x.source = .transaction slot → x.call.connection? = none := by
  induction a with
  | nil => exact ⟨hc, by simp⟩
  | cons p _ ih =>
    have ⟨hm, hp⟩ := p.effect.closed hc
    have ⟨hc', hi⟩ := ih hm
    refine ⟨hc', fun x hx => ?_⟩
    cases List.mem_append.mp hx
    case inl hx => exact hp x hx
    case inr hx => exact hi x hx

theorem countP_finishes (a : Acts d s ds s') (slot : Nat) :
    (if s.Closed slot then 1 else 0) + ds.countP (·.finishes slot) = if s'.Closed slot then 1 else 0 := by
  induction a with
  | nil => simp
  | cons p _ ih =>
    rw [List.countP_append, ← Nat.add_assoc, ← ih]
    exact congrArg (· + _) p.effect.countP_finishes

theorem apart {other : Nat} (a : Acts d s ds s') (all : ∀ x ∈ ds, x.source = .transaction slot)
    (ho : other ≠ slot) : s'.held[other]? = s.held[other]? := by
  induction a with
  | nil => rfl
  | cons p _ ih =>
    have hp := p.effect.apart (fun x hx => all x (List.mem_append_left _ hx)) ho
    exact (ih fun x hx => all x (List.mem_append_right _ hx)).trans hp

end Acts

namespace Script

-- Whether a name is that of a handle of a transaction.
def Names (s : Script σ) (name : String) (slot : Nat) : Prop :=
  ∃ o, (owner? name s).1 = some o ∧ o.handle.source = .transaction slot

instance (s : Script σ) (name : String) (slot : Nat) : Decidable (s.Names name slot) :=
  decidable_of_iff ((owner? name s).1.map (·.handle.source) = some (.transaction slot))
    Option.map_eq_some_iff

variable {d : Driver σ} {s : Script σ} {name : String} {slot : Nat}

theorem owner?_cons (s : Script σ) (name : String) (o : Owner) :
    (owner? name { s with owners := (name, o) :: s.owners }).1 = some o := by
  simp [owner?]

namespace Names

-- Clones of a transaction's handles are handles of it.
theorem clone (hn : s.Names name slot) (new : String) :
    (reply d (.clone name new : Step σ ω) s).2.Names new slot := by
  have ⟨o, ho, hs⟩ := hn
  simp only [reply, withHandle_apply, ho]
  exact ⟨o, owner?_cons s new o, hs⟩

-- So are the handles for queries that are made from them.
theorem intoDb (hn : s.Names name slot) (new : String) :
    (reply d (.intoDb name new : Step σ ω) s).2.Names new slot := by
  have ⟨o, ho, hs⟩ := hn
  simp only [reply, withHandle_apply, ho]
  exact ⟨.db o.handle, owner?_cons s new _, hs⟩

-- No transaction begins in another one, be that open or closed.
theorem begin (hn : s.Names name slot) (new : String) :
    reply d (.begin name new : Step σ ω) s = (.done (.error .nestedTransaction), s) := by
  have ⟨o, ho, hs⟩ := hn
  rw [reply_begin d ho, Handle.begin_transaction d s.state hs]

theorem transaction (hn : s.Names name slot) (new : String) (body : List (BodyStep σ ω))
    (outcome : Except Error ω) :
    reply d (.transaction name new body outcome) s = (.transaction (.error .nestedTransaction) [], s) := by
  have ⟨o, ho, hs⟩ := hn
  rw [reply_transaction d ho, Handle.begin_transaction d s.state hs]

-- Finishing closes an open transaction, whatever the driver answers.
theorem finish (hn : s.Names name slot) (hp : s.state.Open slot) (f : Finish) :
    (reply d (.finish name f : Step σ ω) s).2.state.Closed slot := by
  have ⟨o, ho, hs⟩ := hn
  simp only [reply, withHandle_apply, ho]
  exact Handle.finish_closes d hs hp f

end Names

variable (ω)

-- What can be done with a closed transaction.
structure Spent (d : Driver σ) (s : Script σ) (slot : Nat) : Prop where
  finish : ∀ name, s.Names name slot → ∀ f,
    reply d (.finish name f : Step σ ω) s = (.done (.error .transactionClosed), s)
  run : ∀ name, (owner? name s).1 = some o → o.handle.source = .transaction slot →
    q.compile o.handle.dialect = .ok statement → ∀ mode l,
    ∃ logs, reply d (.run name q mode l : Step σ ω) s =
      (.ran (.error .transactionClosed), { s with state := { s.state with logs } })
  isOpen : ∀ name, s.Names name slot → reply d (.isOpen name : Step σ ω) s = (.flag false, s)

theorem spent_of_closed (d : Driver σ) (hc : s.state.Closed slot) : Spent ω d s slot := by
  constructor
  case finish =>
    intro name hn f
    have ⟨o, ho, hs⟩ := hn
    simp only [reply, withHandle_apply, ho, bind_apply, act_apply, Handle.finish_closed d hs hc]
    rfl
  case run =>
    intro o q statement name ho hs hq mode l
    simp only [reply, withHandle_apply, ho, bind_apply, act_apply, Handle.run_closed d hs hc hq]
    exact ⟨_, rfl⟩
  case isOpen =>
    intro name hn
    have ⟨o, ho, hs⟩ := hn
    simp only [reply, withHandle_apply, ho, bind_apply, act_apply, Handle.isOpen_transaction _ hs]
    rw [hc]
    rfl

end Script

-- The name of the handle that an operation goes through.
def Step.on? : Step σ ω → Option String
  | .prepare _ => none
  | .run on .. | .begin on _ | .finish on _ | .destroy on | .isOpen on | .isTransaction on
  | .dialect on | .describe on | .clone on _ | .intoDb on _ | .transaction on .. => some on

namespace Script

variable {d : Driver σ} {s : Script σ} {name : String} {slot : Nat}

theorem Names.source_eq (hn : s.Names name slot) {step : Step σ ω} (on : step.on? = some name) :
    ∀ x ∈ deeds d step s, x.source = .transaction slot := by
  have ⟨o, ho, hs⟩ := hn
  have through {α : Type} (purpose : Purpose) (a : Action σ α) :
      ∀ x ∈ o.handle.deeds purpose a s.state, x.source = .transaction slot := by
    simp [Handle.deeds, State.deeds, hs]
  cases step <;> cases on
  case run | begin | finish | destroy =>
    simp only [deeds, deedsOf, handle?, ho]
    exact through _ _
  case transaction =>
    simp only [deeds, handle?, ho, Option.map_some, Handle.begin_transaction d s.state hs]
    exact through _ _
  all_goals simp [deeds]

variable (ω)

-- What a transaction has come to at a moment of a session, and what it can still come to.
structure Settled (d : Driver σ) (ds : List Deed) (s : Script σ) (slot : Nat) : Prop where
  -- At most one statement that finishes it is sent, and once it is closed exactly one was.
  once : ds.countP (·.finishes slot) = if s.state.Closed slot then 1 else 0
  closes : ∀ name, s.Names name slot → s.state.Open slot → ∀ f,
    (reply d (.finish name f : Step σ ω) s).2.state.Closed slot
  -- From then on nothing is done through its handles but to close the driver.
  forever : s.state.Closed slot → Run ω d s ds' s' →
    s'.state.Closed slot ∧ Spent ω d s' slot ∧
      ∀ x ∈ ds', x.source = .transaction slot → x.call.connection? = none
  begin : ∀ name, s.Names name slot → ∀ new,
    reply d (.begin name new : Step σ ω) s = (.done (.error .nestedTransaction), s)
  transaction : ∀ name, s.Names name slot → ∀ new (body : List (BodyStep σ ω)) outcome,
    reply d (.transaction name new body outcome) s = (.transaction (.error .nestedTransaction) [], s)
  -- Nothing that is done through its handles opens or closes another one.
  apart : ∀ name, s.Names name slot → ∀ step : Step σ ω, step.on? = some name → ∀ other ≠ slot,
    (reply d step s).2.state.held[other]? = s.state.held[other]?
  clone : ∀ name, s.Names name slot → ∀ new,
    (reply d (.clone name new : Step σ ω) s).2.Names new slot
  intoDb : ∀ name, s.Names name slot → ∀ new,
    (reply d (.intoDb name new : Step σ ω) s).2.Names new slot

variable {ω} {h : Handle} {driver : σ} {ds : List Deed}

-- The count is carried by all parts of the run, the rest is due to the state at its end.
theorem Run.settled (run : Run ω d (start h driver) ds s) (slot : Nat) : Settled ω d ds s slot where
  once := by simpa [start, State.Closed] using run.acts.countP_finishes slot
  closes _ hn := hn.finish
  forever hc more :=
    have ⟨hc', unused⟩ := more.acts.closed hc
    ⟨hc', spent_of_closed ω d hc', unused⟩
  begin _ hn := hn.begin
  transaction _ hn := hn.transaction
  apart _ hn step on _ := (reply_acts d step s).apart (hn.source_eq on)
  clone _ hn := hn.clone
  intoDb _ hn := hn.intoDb

-- A commit that the driver fails to do, through one of two handles.
def failed : List (Step Answers Unit) := [
  .prepare (.addExecute (.ok {})),
  .prepare (.addExecute (.error (.driver "disk full"))),
  .begin firstName "t",
  .clone "t" "u",
  .finish "t" .commit]

theorem failed_settled :
    ∃ ds s, Run Unit (Recorder.full.driver .sqlite) onSqlite ds s ∧
      Settled Unit (Recorder.full.driver .sqlite) ds s 0 ∧
      s.Names "u" 0 ∧ s.state.Closed 0 ∧ ds.countP (·.finishes 0) = 1 := by
  have first : Run Unit (Recorder.full.driver .sqlite) onSqlite [] onSqlite := .nil
  have ⟨ds, run⟩ := first.all failed
  have hn : (runAll (Recorder.full.driver .sqlite) failed onSqlite).2.Names "u" 0 := by decide +kernel
  have hc : (runAll (Recorder.full.driver .sqlite) failed onSqlite).2.state.Closed 0 := by decide +kernel
  have settled := run.settled 0
  exact ⟨_, _, run, settled, hn, hc, settled.once.trans (if_pos hc)⟩

end Script

end SqlBuilder.Session
