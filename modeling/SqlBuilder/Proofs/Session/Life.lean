import SqlBuilder.Proofs.Session.Run
/-!
The lives of connections: one is acquired for a single query, or for a transaction which then holds it
until it is finished.
-/
namespace SqlBuilder.Session

open Sql

namespace Deed

-- A query through a handle of a transaction.
def IsQuery (slot : Nat) (c : Connection) (x : Deed) : Prop :=
  ∃ s answer, s.IsCompiled ∧ x = ⟨.transaction slot, .query, .execute c s answer⟩

-- What is done with a connection when a transaction begins on it.
def begun (d : Dialect) (c : Connection) (answer : QueryResult) : List Deed :=
  [⟨.driver, .begin, .acquire (.ok c)⟩,
    ⟨.driver, .begin, .execute c (.ofText d.beginStatement) (.ok answer)⟩]

def IsRelease (x : Deed) : Prop := ∃ c answer, x.call = .release c answer

theorem about_append (c : Connection) (ds ds' : List Deed) :
    about c (ds ++ ds') = about c ds ++ about c ds' := List.filter_append ..

theorem mem_about {c : Connection} {x : Deed} {ds : List Deed} :
    x ∈ about c ds ↔ x ∈ ds ∧ x.call.connection? = some c := by
  simp [about, List.mem_filter]

theorem about_cons {c : Connection} {x : Deed} (h : x.call.connection? = some c) (ds : List Deed) :
    about c (x :: ds) = x :: about c ds := List.filter_cons_of_pos (by simpa using h)

theorem mem_calls {c : Connection} {call : Call} (h : call.connection? = some c) (ds : List Deed) :
    call ∈ ds.map Deed.call ↔ ∃ x ∈ about c ds, x.call = call := by
  simp only [List.mem_map, mem_about]
  constructor
  case mp => exact fun ⟨x, hx, hc⟩ => ⟨x, ⟨hx, hc ▸ h⟩, hc⟩
  case mpr => exact fun ⟨x, ⟨hx, _⟩, hc⟩ => ⟨x, hx, hc⟩

-- As long as a transaction is open its connection is used to begin it and through its handles only, and
-- it is not released.
theorem of_open {d : Dialect} {c : Connection} {slot : Nat} {begins : QueryResult} {qs : List Deed}
    (queries : ∀ x ∈ qs, x.IsQuery slot c) {x : Deed} (h : x ∈ begun d c begins ++ qs) :
    (x.source = .driver ∧ x.purpose = .begin ∨ x.source = .transaction slot) ∧ ¬x.IsRelease := by
  cases List.mem_append.mp h
  case inl h =>
    simp only [begun, List.mem_cons, List.not_mem_nil, or_false] at h
    cases h <;> subst x <;> simp [IsRelease]
  case inr h =>
    obtain ⟨_, _, _, rfl⟩ := queries x h
    simp [IsRelease]

end Deed

open Deed

-- All that is done with a connection, from when it is acquired to when it is released.
inductive Life (d : Dialect) (c : Connection) : List Deed → Prop
  | query (compiled : s.IsCompiled) :
    Life d c
      [⟨.driver, .query, .acquire (.ok c)⟩, ⟨.driver, .query, .execute c s answer⟩,
        ⟨.driver, .query, .release c released⟩]
  | unbegun :
    Life d c
      [⟨.driver, .begin, .acquire (.ok c)⟩,
        ⟨.driver, .begin, .execute c (.ofText d.beginStatement) (.error e)⟩,
        ⟨.driver, .begin, .release c released⟩]
  | transaction (queries : ∀ x ∈ ds, IsQuery slot c x) :
    Life d c (begun d c begins ++ ds ++
      [⟨.transaction slot, .finish f, .execute c f.statement answer⟩,
        ⟨.transaction slot, .finish f, .release c released⟩])

-- A life ends when the connection is released.
theorem Life.releases {d : Dialect} {c : Connection} {ds : List Deed} (life : Life d c ds) :
    ∃ before last answer, ds = before ++ [last] ∧ last.call = .release c answer ∧
      ∀ x ∈ before, ¬x.IsRelease := by
  cases life with
  | query | unbegun => exact ⟨[_, _], _, _, rfl, rfl, by simp [IsRelease]⟩
  | @transaction qs slot begins f _ _ queries =>
    refine ⟨begun d c begins ++ qs ++ [_], _, _, (List.append_assoc _ [_] [_]).symm, rfl, ?_⟩
    intro x hx
    cases List.mem_append.mp hx
    case inl hx => exact (of_open queries hx).2
    case inr hx => simp [IsRelease, List.mem_singleton.mp hx]

-- How far the life of a connection has come.
inductive Standing (d : Dialect) (acquired : Nat) (held : List (Option Connection)) (c : Nat) :
    List Deed → Prop
  | fresh (new : ¬(0 < c ∧ c ≤ acquired)) (free : ∀ k : Nat, held[k]? ≠ some (some c)) :
    Standing d acquired held c []
  | held (old : 0 < c ∧ c ≤ acquired) (holds : ∀ k : Nat, held[k]? = some (some c) ↔ k = slot)
      (queries : ∀ x ∈ ds, IsQuery slot c x) :
    Standing d acquired held c (begun d c begins ++ ds)
  | ended (old : 0 < c ∧ c ≤ acquired) (free : ∀ k : Nat, held[k]? ≠ some (some c)) (life : Life d c ds) :
    Standing d acquired held c ds

-- What is done to other connections does not matter to a connection.
theorem Effect.frame {d : Dialect} {acquired acquired' : Nat} {held held' : List (Option Connection)}
    {new : List Deed} {c : Nat} (e : Effect d acquired held new acquired' held')
    (h : about c new = []) :
    (0 < c ∧ c ≤ acquired' ↔ 0 < c ∧ c ≤ acquired) ∧
      ∀ k : Nat, held'[k]? = some (some c) ↔ held[k]? = some (some c) := by
  have next (hn : acquired + 1 ≠ c) : 0 < c ∧ c ≤ acquired + 1 ↔ 0 < c ∧ c ≤ acquired := by omega
  cases e with
  | none | within => simp
  | query | unbegun =>
    have hn : acquired + 1 ≠ c := by simpa [about, Call.connection?] using h
    exact ⟨next hn, by simp⟩
  | begun =>
    have hn : acquired + 1 ≠ c := by simpa [about, Call.connection?] using h
    refine ⟨next hn, fun k => ?_⟩
    rw [getElem?_hold]
    split
    case isTrue hk => simp [← hk, hn]
    case isFalse => rfl
  | @finished slot c₀ _ _ _ isOpen =>
    have hn : c₀ ≠ c := by simpa [about, Call.connection?] using h
    refine ⟨Iff.rfl, fun k => ?_⟩
    rw [getElem?_close isOpen]
    split
    case isTrue hk => simp [← hk, isOpen, hn]
    case isFalse => rfl

-- All that an effect does is done to one connection.
theorem Effect.about_eq {d : Dialect} {acquired acquired' : Nat} {held held' : List (Option Connection)}
    {new : List Deed} {c : Connection} (e : Effect d acquired held new acquired' held')
    (h : about c new ≠ []) : about c new = new := by
  have one : ∃ c? : Option Connection, ∀ x ∈ new, x.call.connection? = c? := by
    cases e with
    | none away => exact ⟨_, away⟩
    | _ => exact ⟨some _, by simp [Call.connection?]; rfl⟩
  obtain ⟨c?, hc⟩ := one
  obtain ⟨x, hx⟩ := List.exists_mem_of_ne_nil _ h
  rw [mem_about] at hx
  have hs : c? = some c := (hc x hx.1).symm.trans hx.2
  exact List.filter_eq_self.mpr fun y hy => by simp [hc y hy, hs]

-- A connection that no transaction held before is held by the one that begins on it.
theorem holds_new {held : List (Option Connection)} {c : Connection}
    (free : ∀ k : Nat, held[k]? ≠ some (some c)) (k : Nat) :
    (held ++ [some c])[k]? = some (some c) ↔ k = held.length := by
  rw [getElem?_hold]
  split
  case isTrue hk => simp [hk]
  case isFalse hk => exact ⟨fun hc => absurd hc (free k), fun hc => absurd hc.symm hk⟩

namespace Standing

variable {d : Dialect} {acquired acquired' : Nat} {held held' : List (Option Connection)}
  {c : Nat} {ds new : List Deed}

theorem frame (st : Standing d acquired held c ds)
    (ha : 0 < c ∧ c ≤ acquired' ↔ 0 < c ∧ c ≤ acquired)
    (hh : ∀ k : Nat, held'[k]? = some (some c) ↔ held[k]? = some (some c)) :
    Standing d acquired' held' c ds := by
  cases st with
  | fresh new free => exact .fresh (by rwa [ha]) (fun k => (not_congr (hh k)).mpr (free k))
  | held old holds queries => exact .held (ha.mpr old) (fun k => (hh k).trans (holds k)) queries
  | ended old free life => exact .ended (ha.mpr old) (fun k => (not_congr (hh k)).mpr (free k)) life

-- Nothing has been done with a connection that has not been acquired.
theorem next (st : Standing d acquired held (acquired + 1) ds) :
    ds = [] ∧ ∀ k : Nat, held[k]? ≠ some (some (acquired + 1)) := by
  cases st with
  | fresh _ free => exact ⟨rfl, free⟩
  | held old => omega
  | ended old => omega

-- A connection that is held has begun a transaction, and nothing but queries was done with it since.
theorem of_held {slot : Nat} (st : Standing d acquired held c ds) (h : held[slot]? = some (some c)) :
    (0 < c ∧ c ≤ acquired) ∧ (∀ k : Nat, held[k]? = some (some c) ↔ k = slot) ∧
      ∃ begins qs, ds = begun d c begins ++ qs ∧ ∀ x ∈ qs, IsQuery slot c x := by
  cases st with
  | fresh _ free => exact absurd h (free slot)
  | held old holds queries =>
    obtain rfl := (holds slot).mp h
    exact ⟨old, holds, _, _, rfl, queries⟩
  | ended _ free => exact absurd h (free slot)

-- An effect either leaves the connection alone, or is about it alone.
theorem step (st : Standing d acquired held c ds) (e : Effect d acquired held new acquired' held') :
    Standing d acquired' held' c (ds ++ about c new) := by
  by_cases h : about c new = []
  case pos =>
    have ⟨ha, hh⟩ := e.frame h
    rw [h, List.append_nil]
    exact st.frame ha hh
  case neg =>
    rw [e.about_eq h]
    cases e with
    | none away =>
      refine absurd (List.filter_eq_nil_iff.mpr fun x hx => ?_) h
      simp [away x hx]
    | query compiled =>
      obtain rfl : acquired + 1 = c := by simpa [about, Call.connection?] using h
      obtain ⟨rfl, free⟩ := st.next
      exact .ended (by omega) free (.query compiled)
    | unbegun =>
      obtain rfl : acquired + 1 = c := by simpa [about, Call.connection?] using h
      obtain ⟨rfl, free⟩ := st.next
      exact .ended (by omega) free .unbegun
    | begun =>
      obtain rfl : acquired + 1 = c := by simpa [about, Call.connection?] using h
      obtain ⟨rfl, free⟩ := st.next
      exact .held (by omega) (holds_new free) (List.forall_mem_nil _)
    | @within slot c₀ _ _ isOpen compiled =>
      obtain rfl : c₀ = c := by simpa [about, Call.connection?] using h
      obtain ⟨old, holds, begins, qs, rfl, queries⟩ := st.of_held isOpen
      rw [List.append_assoc]
      refine .held old holds fun x hx => ?_
      cases List.mem_append.mp hx
      case inl hx => exact queries x hx
      case inr hx => exact ⟨_, _, compiled, List.mem_singleton.mp hx⟩
    | @finished slot c₀ _ _ _ isOpen =>
      obtain rfl : c₀ = c := by simpa [about, Call.connection?] using h
      obtain ⟨old, holds, begins, qs, rfl, queries⟩ := st.of_held isOpen
      refine .ended old (fun k => ?_) (.transaction queries)
      rw [getElem?_close isOpen]
      split
      case isTrue => simp
      case isFalse hk => exact fun hc => hk ((holds k).mp hc).symm

-- What was done with a connection so far is how its life starts.
theorem exists_life (st : Standing d acquired held c ds) : ∃ life, Life d c life ∧ ds <+: life := by
  cases st with
  | fresh =>
    refine ⟨[⟨.driver, .begin, .acquire (.ok c)⟩,
      ⟨.driver, .begin, .execute c (.ofText d.beginStatement) (.error .noResult)⟩,
      ⟨.driver, .begin, .release c (.ok ())⟩], .unbegun, List.nil_prefix⟩
  | @held slot _ _ _ _ queries =>
    refine ⟨_ ++ [⟨.transaction slot, .finish .commit, .execute c Finish.commit.statement (.ok {})⟩,
      ⟨.transaction slot, .finish .commit, .release c (.ok ())⟩], .transaction queries, List.prefix_append ..⟩
  | ended _ _ life => exact ⟨_, life, List.prefix_rfl⟩

-- While a transaction holds a connection it is not released.
theorem not_isRelease_of_held {slot : Nat} {x : Deed} (st : Standing d acquired held c ds)
    (h : held[slot]? = some (some c)) (hx : x ∈ ds) : ¬x.IsRelease := by
  obtain ⟨_, _, _, _, rfl, queries⟩ := st.of_held h
  exact (of_open queries hx).2

-- A connection that was released is not used again.
theorem eq_nil_of_isRelease {before after : List Deed} {x : Deed}
    (st : Standing d acquired held c (before ++ x :: after)) (hx : x.IsRelease) : after = [] := by
  generalize hd : before ++ x :: after = ds at st
  have mem : x ∈ ds := by simp [← hd]
  cases st with
  | fresh => cases mem
  | held _ _ queries => exact absurd hx (of_open queries mem).2
  | ended _ _ life =>
    obtain ⟨before', last, _, rfl, _, not_release⟩ := life.releases
    rcases List.eq_nil_or_concat after with h | ⟨after', y, rfl⟩
    case inl => exact h
    case inr =>
      rw [List.concat_eq_append, ← List.cons_append, ← List.append_assoc] at hd
      have hb : x ∈ before' := by simp [← List.append_inj_left' hd rfl]
      exact absurd hx (not_release x hb)

-- A connection is used for one query and never held, or it is used for one transaction.
theorem dedicated (st : Standing d acquired held c ds) :
    (∀ x ∈ ds, x.source = .driver ∧ x.purpose = .query) ∧ (∀ k : Nat, held[k]? ≠ some (some c)) ∨
      ∃ slot, ∀ x ∈ ds, x.source = .driver ∧ x.purpose = .begin ∨ x.source = .transaction slot := by
  cases st with
  | fresh _ free => exact .inl ⟨by simp, free⟩
  | held _ _ queries => exact .inr ⟨_, fun x hx => (of_open queries hx).1⟩
  | ended _ free life =>
    cases life with
    | query => exact .inl ⟨by simp, free⟩
    | unbegun => exact .inr ⟨0, by simp⟩
    | @transaction _ slot _ _ _ _ queries =>
      refine .inr ⟨slot, fun x hx => ?_⟩
      cases List.mem_append.mp hx
      case inl hx => exact (of_open queries hx).1
      case inr hx =>
        simp only [List.mem_cons, List.not_mem_nil, or_false] at hx
        cases hx <;> subst x <;> exact .inr rfl

-- The connections that were acquired and not released are those held by transactions.
theorem outstanding (st : Standing d acquired held c ds) :
    ((∃ x ∈ ds, x.call = .acquire (.ok c)) ∧ ∀ answer, ¬∃ x ∈ ds, x.call = .release c answer) ↔
      ∃ slot : Nat, held[slot]? = some (some c) := by
  constructor
  case mp =>
    rintro ⟨⟨x, hx, _⟩, unreleased⟩
    cases st with
    | fresh => cases hx
    | held _ holds => exact ⟨_, (holds _).mpr rfl⟩
    | ended _ _ life =>
      obtain ⟨_, last, answer, rfl, hl, _⟩ := life.releases
      exact absurd ⟨last, by simp, hl⟩ (unreleased answer)
  case mpr =>
    rintro ⟨slot, h⟩
    refine ⟨?_, fun answer ⟨x, hx, hr⟩ => st.not_isRelease_of_held h hx ⟨c, answer, hr⟩⟩
    obtain ⟨_, _, _, _, rfl, _⟩ := st.of_held h
    exact ⟨_, List.mem_cons_self, rfl⟩

end Standing

variable {σ ω : Type}

-- What was done up to a moment accounts for the calls made and for where each connection is.
structure Ledger (d : Dialect) (ds : List Deed) (s : State σ) : Prop where
  calls : s.calls = ds.map Deed.call
  standing : ∀ c, Standing d s.acquired s.held c (about c ds)

namespace Ledger

variable {d : Dialect} {ds : List Deed} {s s' : State σ}

theorem step {source : Source} {purpose : Purpose} (l : Ledger d ds s)
    (p : Performs d source purpose s s') : Ledger d (ds ++ s.deeds source purpose s') s' where
  calls := by simp [p.calls, l.calls, State.deeds, Function.comp_def]
  standing c := about_append c .. ▸ (l.standing c).step p.effect

end Ledger

namespace Script

variable {d : Driver σ} {h : Handle} {driver : σ} {s : Script σ} {ds : List Deed}

theorem ledger_start (d : Dialect) (h : Handle) (driver : σ) : Ledger d [] (start h driver).state where
  calls := rfl
  standing c := .fresh (fun ⟨hp, hc⟩ => absurd hc (Nat.not_le_of_lt hp)) (by simp [start])

theorem Run.ledger (run : Run ω d (start h driver) ds s) : Ledger d.dialect ds s.state :=
  run.acts.preserves (P := Ledger d.dialect) Ledger.step (ledger_start ..)

-- What connections were used for up to a moment.
structure Accounted (d : Dialect) (ds : List Deed) (s : State σ) : Prop where
  calls : s.calls = ds.map Deed.call
  -- In the middle of an operation less than all of `ds` is done.
  lives : part <+: ds → ∀ c, ∃ life, Life d c life ∧ about c part <+: life
  -- A connection is released at most once and not used afterwards.
  released : ds = before ++ x :: after → x.call = .release c answer → about c after = []
  -- The connection of a query through a handle for queries is used for nothing else.
  plain : x ∈ about c ds → x.source = .driver → x.purpose = .query →
    (∀ y ∈ about c ds, y.source = .driver ∧ y.purpose = .query) ∧
      ∀ slot : Nat, s.held[slot]? ≠ some (some c)
  -- Transactions do not share connections.
  apart : x ∈ about c ds → y ∈ about c ds → x.source = .transaction i → y.source = .transaction j → i = j
  distinct : ∀ i j : Nat, s.held[i]? = some (some c) → s.held[j]? = some (some c) → i = j
  -- The connections to be released are those of the open transactions.
  outstanding : ∀ c, .acquire (.ok c) ∈ s.calls ∧ (∀ answer, .release c answer ∉ s.calls) ↔
    ∃ slot : Nat, s.held[slot]? = some (some c)

-- Whatever the driver answers, every connection has its life.
theorem Run.accounted (run : Run ω d (start h driver) ds s) : Accounted d.dialect ds s.state := by
  have l := run.ledger
  constructor
  case calls => exact l.calls
  case lives =>
    rintro part ⟨rest, rfl⟩ c
    obtain ⟨life, hl, hp⟩ := (l.standing c).exists_life
    rw [about_append] at hp
    exact ⟨life, hl, (List.prefix_append ..).trans hp⟩
  case released =>
    rintro before x after c answer rfl hx
    have st := l.standing c
    rw [about_append, about_cons (by simp [hx, Call.connection?])] at st
    exact st.eq_nil_of_isRelease ⟨c, answer, hx⟩
  case plain =>
    intro c x hx hs hp
    cases (l.standing c).dedicated
    case inl h => exact h
    case inr h =>
      obtain ⟨slot, all⟩ := h
      have := all x hx
      simp [hs, hp] at this
  case apart =>
    intro c x y i j hx hy hi hj
    cases (l.standing c).dedicated
    case inl h => cases hi ▸ (h.1 x hx).1
    case inr h =>
      obtain ⟨slot, all⟩ := h
      have hxs : i = slot := by simpa [hi] using all x hx
      have hys : j = slot := by simpa [hj] using all y hy
      rw [hxs, hys]
  case distinct =>
    intro c i j hi hj
    obtain ⟨_, holds, _⟩ := (l.standing c).of_held hj
    exact (holds i).mp hi
  case outstanding =>
    intro c
    rw [l.calls, mem_calls rfl]
    have hr answer : Call.release c answer ∈ ds.map Deed.call ↔ _ := mem_calls rfl ds
    simp only [hr]
    exact (l.standing c).outstanding

-- Two transactions at once, with a query outside of them. The first one is finished twice.
def crossed : List (Step Answers Unit) := [
  .prepare (.addRelease (some "gone")),
  .begin firstName "a",
  .begin firstName "b",
  .run firstName everyone .all .row,
  .run "b" everyone .first .row,
  .finish "a" .commit,
  .finish "a" .rollback]
where
  everyone : Query := .delete ⟨[], ⟨"person", none⟩, []⟩

theorem crossed_accounted :
    ∃ ds s, Run Unit (Recorder.full.driver .sqlite) onSqlite ds s ∧ Accounted .sqlite ds s.state ∧
      s.state.held = [none, some 2] ∧ s.state.calls.length = 10 := by
  have first : Run Unit (Recorder.full.driver .sqlite) onSqlite [] onSqlite := .nil
  have ⟨ds, run⟩ := first.all crossed
  exact ⟨_, _, run, run.accounted, by decide +kernel, by decide +kernel⟩

end Script

end SqlBuilder.Session
