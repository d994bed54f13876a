import Mathlib.Algebra.Group.Nat.Defs
import SqlBuilder.Proofs.Build.Commuting
import SqlBuilder.Proofs.Sql.Flattening
/-!
Pages of a result tile it: the first pages one after the other are the first rows, none twice and none left out. An
offset that is beyond 64 bits is beyond every row too, and so is the largest number that is taken in its place.
-/
namespace SqlBuilder

namespace Page

-- The difference of two numbers of 64 bits, if there is one.
def difference? (a b : UInt64) : Option UInt64 := if b ≤ a then some (a - b) else none

-- The product of two numbers of 64 bits, or the largest number where the product is beyond it.
def boundedProduct (a b : UInt64) : UInt64 :=
  if b = 0 ∨ a ≤ .ofNat maxCount / b then a * b else .ofNat maxCount

-- A page that is computed from its number in words of 64 bits, if no step leaves them.
def computed? (number perPage : UInt64) : Option Page := do
  let before ← difference? (max number 1) 1
  return { limit := some perPage, offset := some (boundedProduct before perPage) }

-- How many rows are in front of a page, as far as 64 bits go.
def rowsBefore (number perPage : UInt64) : Nat := min ((number.toNat - 1) * perPage.toNat) (2 ^ 64 - 1)

-- The numbers of the first pages.
def firstNumbers (k : Nat) : List UInt64 := (List.range k).map fun i => .ofNat (i + 1)

variable {α : Type} {rows : List α} {number perPage : UInt64} {k : Nat}

theorem toNat_maxCount : (UInt64.ofNat maxCount).toNat = 2 ^ 64 - 1 := rfl

theorem toNat_rowsBefore : (UInt64.ofNat (rowsBefore number perPage)).toNat = rowsBefore number perPage :=
  UInt64.toNat_ofNat_of_lt' (Nat.lt_of_le_of_lt (Nat.min_le_right _ _) (by decide))

theorem ofNumber_eq : ofNumber number perPage = ⟨some perPage, some (.ofNat (rowsBefore number perPage))⟩ := rfl

theorem ofNumber_zero : ofNumber 0 perPage = ofNumber 1 perPage := rfl

theorem difference?_first (number : UInt64) :
    ∃ before, difference? (max number 1) 1 = some before ∧ before.toNat = number.toNat - 1 := by
  rw [UInt64.max_def]
  split
  case isTrue h =>
    have hle : number.toNat ≤ 1 := UInt64.le_iff_toNat_le.mp h
    exact ⟨0, rfl, (Nat.sub_eq_zero_of_le hle).symm⟩
  case isFalse h =>
    have hle : (1 : UInt64) ≤ number := (UInt64.le_total number 1).resolve_left h
    exact ⟨number - 1, if_pos hle, UInt64.toNat_sub_of_le number 1 hle⟩

theorem toNat_boundedProduct (a b : UInt64) :
    (boundedProduct a b).toNat = min (a.toNat * b.toNat) (2 ^ 64 - 1) := by
  have hfits : b = 0 ∨ a ≤ .ofNat maxCount / b ↔ a.toNat * b.toNat ≤ 2 ^ 64 - 1 := by
    by_cases hb : b = 0
    case pos => simp [hb]
    case neg =>
      have hpos : 0 < b.toNat := Nat.pos_of_ne_zero fun h => hb (UInt64.toNat_inj.mp h)
      rw [or_iff_right hb, UInt64.le_iff_toNat_le, UInt64.toNat_div, toNat_maxCount, Nat.le_div_iff_mul_le hpos]
  rw [boundedProduct]
  split
  case isTrue h =>
    have hle := hfits.mp h
    rw [UInt64.toNat_mul, Nat.min_eq_left hle, Nat.mod_eq_of_lt (by omega)]
  case isFalse h =>
    have hlt := Nat.lt_of_not_le (mt hfits.mpr h)
    rw [toNat_maxCount, Nat.min_eq_right (Nat.le_of_lt hlt)]

-- No page has a number below that of the first, and so the words stay in their range.
theorem computed?_eq (number perPage : UInt64) : computed? number perPage = some (ofNumber number perPage) := by
  obtain ⟨before, hbefore, hn⟩ := difference?_first number
  have hoffset : boundedProduct before perPage = .ofNat (rowsBefore number perPage) := by
    rw [← UInt64.toNat_inj, toNat_boundedProduct, toNat_rowsBefore, hn, rowsBefore]
  rw [computed?, hbefore, ofNumber_eq, ← hoffset]
  rfl

-- A page holds what it would hold if its offset were not bounded.
theorem select_ofNumber (h : rows.length < 2 ^ 64) : (ofNumber number perPage).select rows =
    (rows.drop ((number.toNat - 1) * perPage.toNat)).take perPage.toNat := by
  have hdrop : rows.drop (rowsBefore number perPage) = rows.drop ((number.toNat - 1) * perPage.toNat) := by
    rw [rowsBefore]
    cases Nat.le_total ((number.toNat - 1) * perPage.toNat) (2 ^ 64 - 1) with
    | inl hle => rw [Nat.min_eq_left hle]
    | inr hge =>
      rw [Nat.min_eq_right hge, List.drop_eq_nil_of_le (by omega), List.drop_eq_nil_of_le (by omega)]
  rw [ofNumber_eq, select]
  dsimp only [Option.elim]
  rw [toNat_rowsBefore, hdrop]

-- By induction on the pages, each of which begins where those before it end.
theorem flatMap_select (h : rows.length < 2 ^ 64) (hk : k < 2 ^ 64) :
    ((firstNumbers k).flatMap fun number => (ofNumber number perPage).select rows) =
      rows.take (k * perPage.toNat) := by
  induction k with
  | zero => simp [firstNumbers]
  | succ k ih =>
    have hnumber : (UInt64.ofNat (k + 1)).toNat = k + 1 := UInt64.toNat_ofNat_of_lt' hk
    have hlast : (ofNumber (.ofNat (k + 1)) perPage).select rows =
        (rows.drop (k * perPage.toNat)).take perPage.toNat := by
      rw [select_ofNumber h, hnumber, Nat.add_sub_cancel]
    rw [firstNumbers, List.range_succ, List.map_append, ← firstNumbers, List.flatMap_append, ih (by omega),
      Nat.succ_mul, List.take_add, ← hlast, List.map_singleton, List.flatMap_singleton]

end Page

namespace Sql

variable {d : Dialect} {q : Select} {s : Statement}

theorem Select.exists_parts_page (outer : List Scope) : ∃ ps, q.parts d outer = ps ++ [.text (pageText d q.page)] := by
  obtain ⟨ctes, distinct, whole, selections, table, joins, filter, groups, order, page⟩ := q
  rw [Select.parts]
  simp only [← List.append_assoc, ← List.cons_append]
  exact ⟨_, rfl⟩

-- The limit and the offset of a select are the last that is written of it.
theorem Query.exists_sql_page (h : (select q).compile d = .ok s) : ∃ front, s.sql = front ++ pageText d q.page := by
  obtain ⟨-, rfl⟩ := Query.eq_of_compile h
  obtain ⟨ps, hps⟩ := Select.exists_parts_page (d := d) (q := q) []
  have hpieces : (select q).pieces d = Part.allPieces d ps ++ [.text (pageText d q.page)] := by
    rw [Query.pieces, Query.parts, hps, Part.allPieces, List.flatMap_append]
    rfl
  exact ⟨Piece.numbered d 1 (Part.allPieces d ps), by simp [hpieces, Piece.numbered_append, Piece.numbered]⟩

theorem pageText_of_both (d : Dialect) (limit offset : UInt64) : pageText d ⟨some limit, some offset⟩ =
    " limit " ++ limit.toNat.repr ++ " offset " ++ offset.toNat.repr := by
  rw [← Text.decimal_eq_repr, ← Text.decimal_eq_repr]
  rfl

end Sql

namespace Build

open Sql

namespace SelectCall

variable {q : Select} {calls : List SelectCall} {number perPage : UInt64}

-- Calls of which the last one on limit or offset asks for a page.
def AskFor (calls : List SelectCall) (number perPage : UInt64) : Prop :=
  ∃ before after, inlinedAll calls = before ++ .page number perPage :: after ∧
    ∀ c ∈ after, c.clause? ≠ some .page

theorem page_apply {c : SelectCall} (hs : c.clause?.isSome) (h : c.clause? ≠ some .page) :
    (apply q c).page = q.page := by
  cases c with
  | call => cases hs
  | limit | offset | page => exact absurd rfl h
  | _ => rfl

theorem AskFor.page_applyAll (h : AskFor calls number perPage) :
    (applyAll q calls).page = .ofNumber number perPage := by
  obtain ⟨before, after, hcalls, hafter⟩ := h
  rw [← foldl_inlinedAll, hcalls, List.foldl_append, List.foldl_cons]
  refine List.foldlRecOn (motive := fun q : Select => q.page = .ofNumber number perPage) after _ rfl
    fun q hq c hc => ?_
  have hm : c ∈ inlinedAll calls := by simp [hcalls, hc]
  exact (page_apply (clause?_of_mem_inlinedAll calls c hm) (hafter c hc)).trans hq

end SelectCall

-- The first pages of a result are its first rows, each once and in their order, however many rows are on a page,
-- and a statement that is asked for a page ends with its limit and offset.
theorem pages_tile :
    (∀ {α : Type} (rows : List α), rows.length < 2 ^ 64 → ∀ k perPage : UInt64,
      ((Page.firstNumbers k.toNat).flatMap fun number => (Page.ofNumber number perPage).select rows) =
        rows.take (k.toNat * perPage.toNat)) ∧
    (∀ perPage, Page.ofNumber 0 perPage = Page.ofNumber 1 perPage) ∧
    (∀ number perPage, Page.computed? number perPage = some (Page.ofNumber number perPage)) ∧
    ∀ (d : Dialect) (number perPage : UInt64), ∃ limit offset,
      Page.ofNumber number perPage = ⟨some limit, some offset⟩ ∧
      pageText d (.ofNumber number perPage) = " limit " ++ limit.toNat.repr ++ " offset " ++ offset.toNat.repr ∧
      ∀ (q : Select) (calls : List SelectCall) (s : Statement), SelectCall.AskFor calls number perPage →
        (Plan.select q calls).query.compile d = .ok s →
        ∃ front, s.sql = front ++ pageText d (.ofNumber number perPage) := by
  refine ⟨fun rows h k perPage => Page.flatMap_select h k.toNat_lt, fun _ => Page.ofNumber_zero,
    Page.computed?_eq, fun d number perPage => ⟨_, _, Page.ofNumber_eq, pageText_of_both d _ _, ?written⟩⟩
  case written =>
    intro q calls s hcalls hs
    obtain ⟨front, hsql⟩ := Query.exists_sql_page hs
    exact ⟨front, hcalls.page_applyAll ▸ hsql⟩

-- The third of four pages of half of all numbers begins behind the largest number of 64 bits.
def farCalls : List SelectCall := [.limit 3, .call [.page 3 0x8000000000000000, .distinct]]

def farStatement : Statement where
  sql := "select distinct * from \"pet\" limit 9223372036854775808 offset 18446744073709551615"
  params := []
  kind := .select

theorem far_pages_tile :
    ((Page.firstNumbers 4).flatMap fun number => (Page.ofNumber number 0x8000000000000000).select ["Rex", "Tom"]) =
      ["Rex", "Tom"] ∧
    ((Page.firstNumbers 2).flatMap fun number => (Page.ofNumber number 2).select [1, 2, 3, 4, 5]) = [1, 2, 3, 4] ∧
    SelectCall.AskFor farCalls 3 0x8000000000000000 ∧
    (Plan.select (({} : Creator).select ⟨"pet", none⟩ false) farCalls).query.compile .sqlite = .ok farStatement ∧
    ∃ front, farStatement.sql = front ++ pageText .sqlite (.ofNumber 3 0x8000000000000000) := by
  obtain ⟨tiled, -, -, written⟩ := pages_tile
  obtain ⟨-, -, -, -, ending⟩ := written .sqlite 3 0x8000000000000000
  have hcalls : SelectCall.AskFor farCalls 3 0x8000000000000000 := by
    refine ⟨[.limit 3], [.distinct], rfl, fun c hc => ?_⟩
    obtain rfl := List.mem_singleton.mp hc
    simp [SelectCall.clause?]
  have hs : (Plan.select (({} : Creator).select ⟨"pet", none⟩ false) farCalls).query.compile .sqlite =
      .ok farStatement := by decide +kernel
  exact ⟨tiled ["Rex", "Tom"] (by decide) 4 _, tiled [1, 2, 3, 4, 5] (by decide) 2 2, hcalls, hs,
    ending _ _ _ hcalls hs⟩

end Build

end SqlBuilder
