import SqlBuilder.Proofs.Session.Effect
import SqlBuilder.Session.Recorder
import SqlBuilder.Session.Script
/-!
Runs of scripts as sequences of deeds. A run stops at any moment between two operations, also inside
bodies.
-/
namespace SqlBuilder.Session

open Sql

-- The deeds that are about a connection.
def Deed.about (c : Connection) (ds : List Deed) : List Deed :=
  ds.filter (·.call.connection? = some c)

variable {σ ω : Type}

-- What an action that is taken through the handle does.
def Handle.deeds {α : Type} (h : Handle) (purpose : Purpose) (a : Action σ α) (s : State σ) : List Deed :=
  s.deeds h.source purpose (a s).2

-- Parts of a session one after the other.
inductive Acts (d : Dialect) : State σ → List Deed → State σ → Prop
  | nil : Acts d s [] s
  | cons : Performs d source purpose s s' → Acts d s' ds s'' →
    Acts d s (s.deeds source purpose s' ++ ds) s''

namespace Acts

variable {d : Dialect} {s s' s'' : State σ} {ds ds' : List Deed}

theorem append (a : Acts d s ds s') (a' : Acts d s' ds' s'') : Acts d s (ds ++ ds') s'' := by
  induction a with
  | nil => exact a'
  | cons p _ ih => rw [List.append_assoc]; exact .cons p (ih a')

theorem single {source : Source} {purpose : Purpose} (p : Performs d source purpose s s') :
    Acts d s (s.deeds source purpose s') s' := by
  have h := cons p nil
  rwa [List.append_nil] at h

-- Preparing answers of the driver is no deed.
theorem idle (hc : s'.calls = s.calls) (ha : s'.acquired = s.acquired) (hh : s'.held = s.held) :
    Acts d s [] s' := by
  have p : Performs d .none .query s s' := .idle hc ha hh
  simpa [State.deeds, State.since, hc] using single p

-- What holds of a session and what each of its parts preserves, holds later on.
theorem preserves {P : List Deed → State σ → Prop} {before : List Deed} (a : Acts d s ds s')
    (step : ∀ {ds s s' source purpose}, P ds s → Performs d source purpose s s' →
      P (ds ++ s.deeds source purpose s') s') :
    P before s → P (before ++ ds) s' := by
  induction a generalizing before with
  | nil => simp
  | cons p _ ih =>
    intro hp
    rw [← List.append_assoc]
    exact ih (step hp p)

end Acts

namespace Script

theorem bind_apply {α β : Type} (m : M σ α) (f : α → M σ β) (s : Script σ) :
    (m >>= f) s = f (m s).1 (m s).2 := rfl

theorem pure_apply {α : Type} (x : α) (s : Script σ) : (pure x : M σ α) s = (x, s) := rfl

theorem act_apply {α : Type} (a : Action σ α) (s : Script σ) :
    act a s = ((a s.state).1, { s with state := (a s.state).2 }) := rfl

-- The handle of the owner that has a name.
def handle? (s : Script σ) (name : String) : Option Handle := (owner? name s).1.map Owner.handle

-- The outcome of a body that may have been ended by a step that failed.
def bodyOutcome (ended : Option Error) (outcome : Except Error ω) : Except Error ω :=
  match ended with
  | some e => .error e
  | none => outcome

-- A script when the body of a new transaction starts.
def entered (s : Script σ) (name : String) (t : Handle) (state : State σ) : Script σ :=
  { s with state, owners := (name, .transaction t) :: s.owners }

-- What an action through the handle that has a name does.
def deedsOf {α : Type} (s : Script σ) (name : String) (purpose : Purpose) (a : Handle → Action σ α) :
    List Deed :=
  match s.handle? name with
  | some h => h.deeds purpose (a h) s.state
  | none => []

variable (d : Driver σ)

mutual

def deeds : Step σ ω → Script σ → List Deed
  | .run on q mode l, s => s.deedsOf on .query fun h => h.run d q mode l
  | .begin on _, s => s.deedsOf on .begin fun h => h.begin d
  | .finish on f, s => s.deedsOf on (.finish f) fun h => h.finish d f
  | .destroy on, s => s.deedsOf on .destroy fun h => h.destroy d
  | .transaction on name body outcome, s =>
    match s.handle? on with
    | some h =>
      match h.begin d s.state with
      | (.error _, _) => h.deeds .begin (h.begin d) s.state
      | (.ok t, state) =>
        let inside := s.entered name t state
        let ran := runBody d body inside
        let result := bodyOutcome ran.1.2 outcome
        h.deeds .begin (h.begin d) s.state ++ (bodyDeeds body inside ++
          t.deeds (.finish (finishOf result)) (t.conclude d result) ran.2.state)
    | none => []
  | _, _ => []

def bodyDeeds : List (BodyStep σ ω) → Script σ → List Deed
  | [], _ => []
  | ⟨step, ending⟩ :: rest, s =>
    let replied := reply d step s
    deeds step s ++ match if ending then replied.1.error? else none with
      | some _ => []
      | none => bodyDeeds rest (report replied.1 replied.2).2

end

theorem withHandle_apply (name : String) (f : Owner → M σ (Reply ω)) (s : Script σ) :
    withHandle name f s = match (owner? name s).1 with
      | some o => f o s
      | none => (.unknownHandle name, s) := by
  simp only [withHandle, bind_apply]
  cases (owner? name s).1 <;> rfl

theorem reply_run {on : String} {s : Script σ} {o : Owner} (ho : (owner? on s).1 = some o) (q : Query)
    (mode : Mode) (l : Layout) :
    reply d (.run on q mode l : Step σ ω) s =
      (.ran (o.handle.run d q mode l s.state).1, { s with state := (o.handle.run d q mode l s.state).2 }) := by
  simp only [reply, withHandle_apply, ho, bind_apply, act_apply, pure_apply]

theorem reply_finish {on : String} {s : Script σ} {o : Owner} (ho : (owner? on s).1 = some o) (f : Finish) :
    reply d (.finish on f : Step σ ω) s =
      (.done (o.handle.finish d f s.state).1, { s with state := (o.handle.finish d f s.state).2 }) := by
  simp only [reply, withHandle_apply, ho, bind_apply, act_apply, pure_apply]

theorem reply_begin {on name : String} {s : Script σ} {o : Owner} (ho : (owner? on s).1 = some o) :
    reply d (.begin on name : Step σ ω) s =
      match o.handle.begin d s.state with
      | (.error e, state) => (.done (.error e), { s with state })
      | (.ok t, state) => (.done (.ok ()), s.entered name t state) := by
  simp only [reply, withHandle_apply, ho, bind_apply, act_apply]
  rcases o.handle.begin d s.state with ⟨e | t, state⟩ <;> rfl

theorem reply_transaction {on name : String} {s : Script σ} {o : Owner} (ho : (owner? on s).1 = some o)
    (body : List (BodyStep σ ω)) (outcome : Except Error ω) :
    reply d (.transaction on name body outcome) s =
      match o.handle.begin d s.state with
      | (.error e, state) => (.transaction (.error e) [], { s with state })
      | (.ok t, state) =>
        let ran := runBody d body (s.entered name t state)
        let concluded := t.conclude d (bodyOutcome ran.1.2 outcome) ran.2.state
        (.transaction concluded.1 ran.1.1, { ran.2 with state := concluded.2 }) := by
  simp only [reply, withHandle_apply, ho, bind_apply, act_apply]
  rcases o.handle.begin d s.state with ⟨e | t, state⟩
  case error => rfl
  case ok => rfl

theorem runBody_cons (step : Step σ ω) (ending : Bool) (rest : List (BodyStep σ ω)) (s : Script σ) :
    runBody d (⟨step, ending⟩ :: rest) s =
      let replied := reply d step s
      let reported := report replied.1 replied.2
      match if ending then replied.1.error? else none with
      | some e => (([reported.1], some e), reported.2)
      | none =>
        let ran := runBody d rest reported.2
        ((reported.1 :: ran.1.1, ran.1.2), ran.2) := by
  simp only [runBody, bind_apply]
  have hr (r : Reply ω) (s : Script σ) : (report r s).1.reply = r := rfl
  rw [hr]
  cases if ending then (reply d step s).1.error? else none <;> rfl

mutual

theorem reply_acts : (step : Step σ ω) → (s : Script σ) →
    Acts d.dialect s.state (deeds d step s) (reply d step s).2.state
  | .prepare change, s => .idle rfl rfl rfl
  | .run on q mode l, s => by
    simp only [reply, withHandle_apply, deeds, deedsOf, handle?]
    cases (owner? on s).1
    case none => exact .nil
    case some o => exact .single (o.handle.run_performs d q mode l s.state)
  | .begin on name, s => by
    simp only [deeds, deedsOf, handle?]
    cases ho : (owner? on s).1
    case none =>
      simp only [reply, withHandle_apply, ho]
      exact .nil
    case some o =>
      have p := o.handle.begin_performs d s.state
      have hs : (reply d (.begin on name : Step σ ω) s).2.state = (o.handle.begin d s.state).2 := by
        rw [reply_begin d ho]
        rcases o.handle.begin d s.state with ⟨_ | _, _⟩ <;> rfl
      rw [hs]
      exact .single p
  | .finish on f, s => by
    simp only [reply, withHandle_apply, deeds, deedsOf, handle?]
    cases (owner? on s).1
    case none => exact .nil
    case some o => exact .single (o.handle.finish_performs d f s.state)
  | .destroy on, s => by
    simp only [reply, withHandle_apply, deeds, deedsOf, handle?]
    cases (owner? on s).1
    case none => exact .nil
    case some o => exact .single (o.handle.destroy_performs d s.state)
  | .isOpen on, s => by
    simp only [reply, withHandle_apply]
    cases (owner? on s).1
    case none => exact .nil
    case some o =>
      simp only [bind_apply, act_apply, o.handle.isOpen_state]
      exact .nil
  | .isTransaction on, s
  | .dialect on, s
  | .describe on, s
  | .clone on name, s
  | .intoDb on name, s => by
    simp only [reply, withHandle_apply]
    cases (owner? on s).1 <;> exact .nil
  | .transaction on name body outcome, s => by
    simp only [deeds, handle?]
    cases ho : (owner? on s).1
    case none =>
      simp only [reply, withHandle_apply, ho]
      exact .nil
    case some o =>
      have a : Acts d.dialect s.state (o.handle.deeds .begin (o.handle.begin d) s.state)
          (o.handle.begin d s.state).2 := .single (o.handle.begin_performs d s.state)
      rw [reply_transaction d ho]
      simp only [Option.map_some]
      rcases hb : o.handle.begin d s.state with ⟨e | t, state⟩
      case error =>
        rw [hb] at a
        exact a
      case ok =>
        rw [hb] at a
        have ran := runBody_acts body (s.entered name t state)
        exact a.append (ran.append (.single (t.conclude_performs d _ _)))

theorem runBody_acts : (body : List (BodyStep σ ω)) → (s : Script σ) →
    Acts d.dialect s.state (bodyDeeds d body s) (runBody d body s).2.state
  | [], s => .nil
  | ⟨step, ending⟩ :: rest, s => by
    have a := reply_acts step s
    rw [runBody_cons, bodyDeeds]
    dsimp only
    cases if ending then (reply d step s).1.error? else none
    case none => exact a.append (runBody_acts rest (report (reply d step s).1 (reply d step s).2).2)
    case some e => exact a.append .nil

end

variable (ω)

-- A run from one script to another and the deeds done in it. Between two steps there may be a report,
-- and the body of a transaction that has begun can be run step by step, so that all moments of a
-- script are moments of runs.
inductive Run (d : Driver σ) (s : Script σ) : List Deed → Script σ → Prop
  | nil : Run d s [] s
  | step (step : Step σ ω) : Run d s ds s' → Run d s (ds ++ deeds d step s') (reply d step s').2
  | report (r : Reply ω) : Run d s ds s' → Run d s ds (report r s').2

variable {ω} {d : Driver σ} {s s' : Script σ} {ds : List Deed}

theorem Run.acts (run : Run ω d s ds s') : Acts d.dialect s.state ds s'.state := by
  induction run with
  | nil => exact .nil
  | step step _ ih => exact ih.append (reply_acts d step _)
  | report _ _ ih => exact ih

-- A run goes on in the body of a transaction that it begins.
theorem Run.enter {on name : String} {o : Owner} {t : Handle} {state : State σ} (run : Run ω d s ds s')
    (ho : (owner? on s').1 = some o) (hb : o.handle.begin d s'.state = (.ok t, state)) :
    Run ω d s (ds ++ o.handle.deeds .begin (o.handle.begin d) s'.state) (s'.entered name t state) := by
  have r := run.step (.begin on name)
  simpa only [reply_begin d ho, hb, deeds, deedsOf, handle?, ho, Option.map_some] using r

theorem Run.body (body : List (BodyStep σ ω)) (run : Run ω d s ds s') :
    Run ω d s (ds ++ bodyDeeds d body s') (runBody d body s').2 := by
  induction body generalizing ds s' with
  | nil => simpa [bodyDeeds, runBody, pure_apply] using run
  | cons b rest ih =>
    obtain ⟨step, ending⟩ := b
    rw [runBody_cons, bodyDeeds, ← List.append_assoc]
    have r := run.step step
    dsimp only
    cases if ending then (reply d step s').1.error? else none
    case none => exact ih (r.report _)
    case some e => simpa using r.report _

-- All steps of a script make up a run.
theorem Run.all (steps : List (Step σ ω)) (run : Run ω d s ds s') :
    ∃ more, Run ω d s (ds ++ more) (runAll d steps s').2 := by
  induction steps generalizing ds s' with
  | nil => exact ⟨[], by simpa [runAll, pure_apply] using run⟩
  | cons step rest ih =>
    have ⟨more, r⟩ := ih ((run.step step).report (reply d step s').1)
    rw [List.append_assoc] at r
    exact ⟨deeds d step s' ++ more, r⟩

-- A script on a driver that answers as it was prepared to.
def onSqlite : Script Answers := start (.ofDriver (Recorder.full.driver .sqlite) {}) {}

end Script

end SqlBuilder.Session
