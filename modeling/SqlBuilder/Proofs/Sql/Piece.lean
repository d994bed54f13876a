import Mathlib.Data.List.TakeWhile
import SqlBuilder.Sql.Draft
/-!
Statements as flat lists of texts and values. No piece knows its number: the values are numbered from
left to right when the list is read as a whole.
-/
namespace SqlBuilder.Sql

inductive Piece where
  | text (s : String)
  | value (v : Value)
  -- why nothing more can be written
  | fault (e : Error)

namespace Piece

def value? : Piece → Option Value
  | value v => some v
  | _ => none

def fault? : Piece → Option Error
  | fault e => some e
  | _ => none

-- What stands for the value with number `n` in a statement.
def mark : Dialect → Nat → String
  | .postgres, n => "$" ++ n.repr
  | .sqlite, n => "?" ++ n.repr
  | .mysql, _ => "?"

-- The text of pieces whose first value has number `n`.
def numbered (d : Dialect) (n : Nat) : List Piece → String
  | [] => ""
  | text s :: ps => s ++ numbered d n ps
  | value _ :: ps => mark d n ++ numbered d (n + 1) ps
  | fault _ :: ps => numbered d n ps

-- The values in order, the first one being that with the first number.
def values (ps : List Piece) : List Value := ps.filterMap value?

def firstFault? (ps : List Piece) : Option Error := ps.findSome? fault?

-- The pieces in front of the first fault.
def beforeFault (ps : List Piece) : List Piece := ps.takeWhile (·.fault?.isNone)

variable {d : Dialect} {n : Nat} {ps qs : List Piece}

@[simp] theorem values_text {s : String} : values (text s :: ps) = values ps := rfl

@[simp] theorem values_fault {e : Error} : values (fault e :: ps) = values ps := rfl

@[simp] theorem values_value {v : Value} : values (value v :: ps) = v :: values ps := rfl

@[simp] theorem values_append : values (ps ++ qs) = values ps ++ values qs :=
  List.filterMap_append

theorem numbered_append :
    numbered d n (ps ++ qs) = numbered d n ps ++ numbered d (n + (values ps).length) qs := by
  induction ps generalizing n with
  | nil => simp [numbered, values]
  | cons p ps ih =>
    cases p
    case text s => simp [numbered, ih, String.append_assoc]
    case fault e => simp [numbered, ih]
    case value v =>
      have h : n + 1 + (values ps).length = n + ((values ps).length + 1) := by omega
      simp [numbered, ih, h, String.append_assoc]

theorem firstFault?_append :
    firstFault? (ps ++ qs) = (firstFault? ps).or (firstFault? qs) :=
  List.findSome?_append

theorem firstFault?_eq_none_iff : firstFault? ps = none ↔ ∀ e, fault e ∉ ps := by
  simp only [firstFault?, List.findSome?_eq_none_iff]
  constructor
  · intro h e he
    exact nomatch h _ he
  · intro h p hp
    cases p
    case fault e => exact absurd hp (h e)
    all_goals rfl

theorem isNone_fault? (h : firstFault? ps = none) : ∀ p ∈ ps, p.fault?.isNone := by
  intro p hp
  have hn := List.findSome?_eq_none_iff.mp h p hp
  simp [hn]

theorem beforeFault_append_of_none (h : firstFault? ps = none) :
    beforeFault (ps ++ qs) = ps ++ beforeFault qs :=
  List.takeWhile_append_of_pos (isNone_fault? h)

-- Nothing behind a fault counts.
theorem beforeFault_append_of_some {e : Error} (h : firstFault? ps = some e) :
    beforeFault (ps ++ qs) = beforeFault ps := by
  have ⟨before, p, after, hps, hp, hb⟩ := List.findSome?_eq_some_iff.mp h
  have hn : firstFault? before = none := List.findSome?_eq_none_iff.mpr hb
  have hs (rest : List Piece) : beforeFault (p :: rest) = [] := by
    simp [beforeFault, hp]
  subst hps
  rw [List.append_assoc, List.cons_append, beforeFault_append_of_none hn,
    beforeFault_append_of_none hn, hs, hs]

-- Where the value with index `i` stands among the pieces.
theorem split_at_value {i : Nat} {v : Value} (h : (values ps)[i]? = some v) :
    ∃ before after, ps = before ++ value v :: after ∧ (values before).length = i := by
  induction ps generalizing i with
  | nil => simp [values] at h
  | cons p ps ih =>
    cases p
    case value w =>
      cases i
      case zero =>
        have hw : w = v := by simpa [values, value?] using h
        exact ⟨[], ps, by simp [hw], rfl⟩
      case succ i =>
        have hi : (values ps)[i]? = some v := by simpa [values, value?] using h
        have ⟨before, after, hps, hl⟩ := ih hi
        refine ⟨value w :: before, after, by simp [hps], ?_⟩
        have hv : values (value w :: before) = w :: values before := rfl
        simp [hv, hl]
    -- the other pieces count for nothing
    case text s =>
      have ⟨before, after, hps, hl⟩ := ih (i := i) h
      exact ⟨text s :: before, after, by simp [hps], hl⟩
    case fault e =>
      have ⟨before, after, hps, hl⟩ := ih (i := i) h
      exact ⟨fault e :: before, after, by simp [hps], hl⟩

end Piece

end SqlBuilder.Sql
