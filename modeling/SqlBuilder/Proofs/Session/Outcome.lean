import SqlBuilder.Proofs.Session.Closing
import SqlBuilder.Proofs.Session.Life
/-!
What becomes of a transaction that is run with a body, whatever the body and the driver do.
-/
namespace SqlBuilder.Session

open Sql Deed

variable {σ ω : Type}

-- A transaction that begins holds the connection that was acquired for it.
theorem Handle.begin_ok {h t : Handle} {d : Driver σ} {s s' : State σ} (hb : h.begin d s = (.ok t, s')) :
    t.source = .transaction s.held.length ∧ s'.held[s.held.length]? = some (some (s.acquired + 1)) := by
  cases hs : h.source
  case none => cases begin_none d s hs ▸ hb
  case transaction slot => cases begin_transaction d s hs ▸ hb
  case driver =>
    rw [begin_driver d s hs] at hb
    rcases ha : d.acquire s.driver with ⟨e | _, driver⟩
    case error => cases ha ▸ hb
    case ok =>
      simp only [ha] at hb
      rcases he : d.execute (s.acquired + 1) (.ofText d.dialect.beginStatement) driver with ⟨e | _, driver'⟩
      case error => cases he ▸ hb
      case ok =>
        cases he ▸ hb
        exact ⟨rfl, List.getElem?_concat_length ..⟩

-- An open transaction is finished by the outcome of what was done in it.
theorem Handle.conclude_apply {h : Handle} {slot : Nat} {c : Connection} {α : Type} (d : Driver σ)
    {s : State σ} (hs : h.source = .transaction slot) (hc : s.held[slot]? = some (some c))
    (outcome : Except Error α) :
    (h.conclude d outcome s).2.Closed slot ∧ ∃ answer released,
      (h.conclude d outcome s).2.calls =
        s.calls ++ [.execute c (finishOf outcome).statement answer, .release c released] ∧
      (h.conclude d outcome s).1 = concluded outcome (answer.bind fun _ => released) := by
  have hj : s.held[slot]?.join = some c := by rw [hc]; rfl
  rw [conclude_open d s hs hj, finish_transaction d s hs, hj]
  exact ⟨by simp [State.Closed, getElem?_close hc], _, _, rfl, rfl⟩

-- A transaction that began on a connection, be it open or closed by now.
structure Owns (slot : Nat) (c : Nat) (acquired : Nat) (held : List (Option Connection)) : Prop where
  old : 0 < c ∧ c ≤ acquired
  only : ∀ k : Nat, held[k]? = some (some c) → k = slot
  began : held[slot]? = some (some c) ∨ held[slot]? = some none

theorem Owns.effect {d : Dialect} {slot c acquired acquired' : Nat} {held held' : List (Option Connection)}
    {new : List Deed} (o : Owns slot c acquired held) (e : Effect d acquired held new acquired' held') :
    Owns slot c acquired' held' := by
  have ⟨⟨hp, hc⟩, only, began⟩ := o
  have later : 0 < c ∧ c ≤ acquired + 1 := ⟨hp, Nat.le_succ_of_le hc⟩
  cases e with
  | none | within => exact o
  | query | unbegun => exact ⟨later, only, began⟩
  | begun =>
    refine ⟨later, fun k hk => ?_, ?_⟩
    case refine_1 =>
      rw [getElem?_hold] at hk
      split at hk
      case isTrue =>
        cases hk
        exact absurd hc (Nat.not_succ_le_self acquired)
      case isFalse => exact only k hk
    case refine_2 =>
      have hs : held.length ≠ slot := fun hs => by simp [← hs] at began
      rwa [getElem?_hold, if_neg hs]
  | @finished slot' _ _ _ _ isOpen =>
    refine ⟨⟨hp, hc⟩, fun k hk => ?_, ?_⟩
    case refine_1 =>
      rw [getElem?_close isOpen] at hk
      split at hk
      case isTrue => cases hk
      case isFalse => exact only k hk
    case refine_2 =>
      rw [getElem?_close isOpen]
      split
      case isTrue => exact .inr rfl
      case isFalse => exact began

theorem Acts.owns {d : Dialect} {slot c : Nat} {s s' : State σ} {ds : List Deed} (a : Acts d s ds s')
    (o : Owns slot c s.acquired s.held) : Owns slot c s'.acquired s'.held := by
  induction a with
  | nil => exact o
  | cons p _ ih => exact ih (o.effect p.effect)

def Call.releases (c : Connection) : Call → Bool
  | .release c' _ => c' = c
  | _ => false

theorem Call.releases_iff {c : Connection} {call : Call} :
    call.releases c = true ↔ ∃ answer, call = .release c answer := by
  cases call <;> simp [releases]

theorem Life.countP_releases {d : Dialect} {c : Connection} {ds : List Deed} (life : Life d c ds) :
    ds.countP (·.call.releases c) = 1 := by
  have ⟨before, last, answer, hd, hl, not_release⟩ := life.releases
  have hb : before.countP (·.call.releases c) = 0 := by
    refine List.countP_eq_zero.mpr fun x hx hr => not_release x hx ?_
    have ⟨answer, ha⟩ := Call.releases_iff.mp hr
    exact ⟨c, answer, ha⟩
  rw [hd, List.countP_append, hb]
  simp [hl, Call.releases]

theorem Deed.countP_about (c : Connection) (ds : List Deed) :
    (about c ds).countP (·.call.releases c) = ds.countP (·.call.releases c) := by
  rw [about, List.countP_filter]
  refine List.countP_congr fun x _ => ?_
  simp only [Bool.and_eq_true, decide_eq_true_eq, and_iff_left_iff_imp, Call.releases_iff]
  rintro ⟨answer, hx⟩
  rw [hx]
  rfl

namespace Ledger

variable {d : Dialect} {ds : List Deed} {s : State σ} {c : Nat}

theorem countP_about (l : Ledger d ds s) (c : Connection) :
    s.calls.countP (·.releases c) = (about c ds).countP (·.call.releases c) := by
  rw [l.calls, List.countP_map, Deed.countP_about]
  rfl

-- A connection that was acquired and that no transaction holds was released once.
theorem countP_releases_of_free (l : Ledger d ds s) (old : 0 < c ∧ c ≤ s.acquired)
    (free : ∀ k : Nat, s.held[k]? ≠ some (some c)) : s.calls.countP (·.releases c) = 1 := by
  have st := l.standing c
  rw [l.countP_about]
  generalize about c ds = used at st
  cases st with
  | fresh new => exact absurd old new
  | @held slot _ _ _ holds => exact absurd ((holds slot).mpr rfl) (free slot)
  | ended _ _ life => exact life.countP_releases

-- The connection of a transaction that is closed was released once.
theorem countP_releases {slot : Nat} (l : Ledger d ds s) (o : Owns slot c s.acquired s.held)
    (hc : s.Closed slot) : s.calls.countP (·.releases c) = 1 := by
  refine l.countP_releases_of_free o.old fun k hk => ?_
  cases o.only k hk
  cases hk.symm.trans hc

end Ledger

namespace Script

variable {d : Driver σ} {h : Handle} {driver : σ} {s : Script σ} {ds : List Deed}

end Script

end SqlBuilder.Session
