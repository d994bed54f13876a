import SqlBuilder.Sql.Raw
/-!
Which question marks of raw text stand for values, when the text is read character by character.
-/
namespace SqlBuilder.Sql

-- The region that the text behind a character is in, given the one that the character is in.
def turn (quote : Option Char) (c : Char) : Option Char :=
  match quote with
  | none => if Raw.opensQuote c then some c else none
  | some q => if c = q then none else some q

variable {quote : Option Char} {c q : Char} {cs : List Char}

theorem turn_of_opensQuote_eq_false (h : Raw.opensQuote c = false) : turn none c = none := by
  simp [turn, h]

theorem turn_self (h : Raw.opensQuote q = true) : turn none q = some q := by
  simp [turn, h]

theorem turn_closes : turn (some q) q = none := if_pos rfl

theorem turn_inside (h : c ≠ q) : turn (some q) c = some q := if_neg h

theorem opensQuote_of_mem_turn (hq : ∀ q ∈ quote, Raw.opensQuote q = true) :
    ∀ q ∈ turn quote c, Raw.opensQuote q = true := by
  cases quote <;> simp_all [turn]

namespace Raw

-- Text read character by character. Each quote turns a region on or off, and outside of regions a question mark
-- is a placeholder unless it makes an operator with the character behind it.
def reading (quote : Option Char) : List Char → List Mark
  | [] => []
  | [c] => [if quote = none ∧ c = '?' then .hole else .char c]
  | c :: c' :: cs =>
    if quote = none ∧ c = '?' then
      if continuesOperator c' then .char c :: .char c' :: reading none cs else .hole :: reading none (c' :: cs)
    else .char c :: reading (turn quote c) (c' :: cs)

theorem reading_char (h : ¬(quote = none ∧ c = '?')) :
    reading quote (c :: cs) = .char c :: reading (turn quote c) cs := by
  cases cs <;> simp [reading, h]

theorem reading_operator (h : continuesOperator c = true) :
    reading none ('?' :: c :: cs) = .char '?' :: .char c :: reading none cs := by
  simp [reading, h]

theorem reading_hole (h : cs.head?.any continuesOperator = false) :
    reading none ('?' :: cs) = .hole :: reading none cs := by
  cases cs <;> simp_all [reading]

theorem ne_question (h : opensQuote q = true) : q ≠ '?' := by
  rintro rfl
  simp [opensQuote] at h

-- A doubled quote closes a region and opens it again, so that it can as well be skipped.
theorem reading_doubled (h : opensQuote q = true) :
    reading (some q) (q :: q :: cs) = .char q :: .char q :: reading (some q) cs := by
  rw [reading_char (by simp), turn_closes, reading_char (by simp [ne_question h]), turn_self h]

theorem marks_eq_reading (hq : ∀ q ∈ quote, opensQuote q = true) : marks quote cs = reading quote cs := by
  fun_induction marks quote cs with
  | case1 => rfl
  | case2 => rfl
  | case3 _ _ cs q h ih =>
    obtain ⟨rfl, rfl⟩ := h
    rw [ih hq, reading_doubled (hq _ rfl)]
  | case4 c c' cs q h ih =>
    have hn : ¬(some q = none ∧ c = '?') := by simp
    exact (congrArg (.char c :: ·) (ih (opensQuote_of_mem_turn hq))).trans (reading_char hn).symm
  | case5 _ c' cs h ih =>
    obtain ⟨rfl, hc⟩ := h
    rw [ih hq, reading_operator hc]
  | case6 c' cs h ih => rw [ih hq, reading_hole (by simpa using h)]
  | case7 c c' cs h hc ih =>
    have hn : ¬((none : Option Char) = none ∧ c = '?') := by simp [hc]
    exact (congrArg (.char c :: ·) (ih (opensQuote_of_mem_turn hq))).trans (reading_char hn).symm

theorem marks_none_eq_reading : marks none cs = reading none cs := marks_eq_reading (by simp)

end Raw

end SqlBuilder.Sql
