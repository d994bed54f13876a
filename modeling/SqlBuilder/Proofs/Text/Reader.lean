import Mathlib.Data.List.TakeWhile
import Mathlib.Data.Nat.Digits.Defs
import SqlBuilder.Proofs.Text.Decimal
import SqlBuilder.Text.Reader
/-!
What a reader takes off the front of a text. A number is read back from the digits that it was written
with, whatever stands behind them.
-/
namespace SqlBuilder.Text

variable {n width read : Nat} {c : Char} {cs ds rest : List Char}

theorem digits_ne_nil : digits n ≠ [] := by
  rw [digits]
  split <;> simp

theorem length_digits_le (hw : 0 < width) (h : n < 10 ^ width) : (digits n).length ≤ width :=
  digits_eq_toDigits n ▸ Nat.toDigits_length 10 n width hw h

theorem length_padded (hw : 0 < width) (h : n < 10 ^ width) : (padded width n).length = width := by
  rw [padded, List.length_append, List.length_replicate]
  exact Nat.sub_add_cancel (length_digits_le hw h)

theorem padded_ne_nil (width n : Nat) : padded width n ≠ [] :=
  List.append_ne_nil_of_right_ne_nil _ digits_ne_nil

theorem isDigit_of_mem_padded (hc : c ∈ padded width n) : isDigit c = true := by
  cases List.mem_append.mp hc with
  | inl hz => exact List.eq_of_mem_replicate hz ▸ rfl
  | inr hd => exact isDigit_of_mem_digits hd

theorem padded_eq_cons (width n : Nat) : ∃ c cs, padded width n = c :: cs ∧ isDigit c = true := by
  obtain ⟨c, cs, hc⟩ := List.exists_cons_of_ne_nil (padded_ne_nil width n)
  exact ⟨c, cs, hc, isDigit_of_mem_padded (hc ▸ List.mem_cons_self)⟩

theorem natural?_of_ne_nil (h : ds ≠ []) : natural? ds = readDigits? 0 ds := by
  cases ds with
  | nil => exact absurd rfl h
  | cons => rfl

-- Each zero that is read multiplies by ten.
theorem readDigits?_zeros (k : Nat) : readDigits? read (List.replicate k '0') = some (read * 10 ^ k) := by
  induction k generalizing read with
  | zero => rw [Nat.pow_zero, Nat.mul_one, List.replicate_zero, readDigits?]
  | succ k ih =>
    have hd : digitValue? '0' = some 0 := rfl
    rw [List.replicate_succ, readDigits?, hd]
    simp only [Nat.add_zero]
    rw [ih, Nat.pow_succ', Nat.mul_comm 10 read, Nat.mul_assoc]

theorem readDigits?_padded : readDigits? 0 (padded width n) = some n := by
  rw [padded, readDigits?_append, readDigits?_zeros, Option.bind_some, Nat.zero_mul, readDigits?_digits]

theorem natural?_padded : natural? (padded width n) = some n := by
  rw [natural?_of_ne_nil (padded_ne_nil width n), readDigits?_padded]

theorem digitValue?_lt {d : Nat} (h : digitValue? c = some d) : d < 10 := by
  rw [digitValue?] at h
  split at h
  case isTrue hc =>
    have hle : c.toNat ≤ 57 := hc.right
    have hd := Option.some.inj h
    have hz : '0'.toNat = 48 := rfl
    omega
  case isFalse => cases h

theorem lt_of_readDigits?_eq_some (h : readDigits? read ds = some n) : n < (read + 1) * 10 ^ ds.length := by
  induction ds generalizing read with
  | nil =>
    cases h
    simp
  | cons c ds ih =>
    rw [readDigits?] at h
    split at h
    case h_1 d hd =>
      have hd := digitValue?_lt hd
      calc n < (10 * read + d + 1) * 10 ^ ds.length := ih h
        _ ≤ ((read + 1) * 10) * 10 ^ ds.length := Nat.mul_le_mul_right _ (by omega)
        _ = (read + 1) * 10 ^ (c :: ds).length := by rw [List.length_cons, Nat.pow_succ', Nat.mul_assoc]
    case h_2 => cases h

theorem lt_of_natural?_eq_some (h : natural? ds = some n) : n < 10 ^ ds.length := by
  cases ds with
  | nil => cases h
  | cons c ds => simpa using lt_of_readDigits?_eq_some h

theorem isBlank_of_isDigit (h : isDigit c = true) : isBlank c = false := by
  have hc : '0' ≤ c ∧ c ≤ '9' := by
    rw [isDigit, digitValue?] at h
    split at h
    case isTrue hc => exact hc
    case isFalse => cases h
  have hlow : 48 ≤ c.toNat := hc.left
  have hhigh : c.toNat ≤ 57 := hc.right
  simp only [isBlank, blankRanges, List.any_cons, List.any_nil, Bool.or_false, Bool.or_eq_false_iff,
    Bool.and_eq_false_iff, decide_eq_false_iff_not]
  omega

namespace Reader

variable {α β : Type} {r : Reader α} {f : α → Reader β} {a : α} {b : β} {mid : List Char} {s : String}

theorem read?_eq_some_iff : r.read? s = some a ↔ r s.toList = some (a, []) := by
  rw [read?]
  split
  case h_1 => simp_all
  case h_2 hr =>
    refine iff_of_false (by simp) fun h => ?_
    exact hr a h

theorem read?_eq_none (h : r s.toList = none) : r.read? s = none := by
  rw [read?, h]

-- What is read whatever follows is read at the end of a text.
theorem eq_of_forall_append (h : ∀ rest, r (cs ++ rest) = some (a, rest)) : r cs = some (a, []) :=
  List.append_nil cs ▸ h []

theorem pure_eq : (pure a : Reader α) cs = some (a, cs) := rfl

theorem get_eq : (get : Reader (List Char)) cs = some (cs, cs) := rfl

theorem set_eq : (set mid : Reader Unit) cs = some ((), mid) := rfl

theorem bind_eq (h : r cs = some (a, mid)) : (r >>= f) cs = f a mid := by
  change (r cs).bind _ = _
  rw [h]
  rfl

theorem bind_eq_none (h : r cs = none) : (r >>= f) cs = none := by
  change (r cs).bind _ = _
  rw [h]
  rfl

theorem bind_eq_some_iff :
    (r >>= f) cs = some (b, rest) ↔ ∃ a mid, r cs = some (a, mid) ∧ f a mid = some (b, rest) := by
  change (r cs).bind (fun p => f p.1 p.2) = _ ↔ _
  rw [Option.bind_eq_some_iff, Prod.exists]

theorem lift_eq {o : Option α} (h : o = some a) : (liftM o : Reader α) cs = some (a, cs) := by
  subst h
  rfl

theorem lift_eq_some_iff {o : Option α} :
    (liftM o : Reader α) cs = some (a, rest) ↔ o = some a ∧ cs = rest := by
  cases o with
  | none => exact iff_of_false (by intro h; cases h) fun h => by cases h.left
  | some b =>
    change some (b, cs) = some (a, rest) ↔ _
    simp

theorem satisfy_cons {p : Char → Bool} (h : p c = true) : satisfy p (c :: cs) = some (c, cs) := by
  rw [satisfy, if_pos h]

theorem char_cons : char c (c :: cs) = some ((), cs) := by
  have hs : satisfy (· = c) (c :: cs) = some (c, cs) := satisfy_cons (decide_eq_true rfl)
  change (satisfy (· = c) (c :: cs)).bind _ = _
  rw [hs]
  rfl

-- No white space is taken where none stands.
theorem blanks_eq (h : cs.head?.any isBlank = false) : blanks cs = some ((), cs) := by
  cases cs with
  | nil => rfl
  | cons c cs => rw [blanks, trimStart, List.dropWhile_cons_of_neg (by simpa using h)]

theorem blanks_space : blanks (' ' :: cs) = blanks cs := rfl

theorem blanks_padded : blanks (padded width n ++ rest) = some ((), padded width n ++ rest) := by
  obtain ⟨c, cs, hc, hd⟩ := padded_eq_cons width n
  refine blanks_eq ?_
  rw [hc, List.cons_append, List.head?_cons, Option.any_some, isBlank_of_isDigit hd]

theorem someDigits_append (h : ∀ c ∈ ds, isDigit c = true) :
    someDigits ds.length (ds ++ rest) = some (ds, rest) := by
  rw [someDigits, List.take_left, List.takeWhile_eq_self_iff.mpr h, List.drop_left]

section Padded

variable (hw : 0 < width) (h : n < 10 ^ width)
include hw h

theorem someDigits_padded : someDigits width (padded width n ++ rest) = some (padded width n, rest) := by
  have hs : someDigits (padded width n).length (padded width n ++ rest) = some (padded width n, rest) :=
    someDigits_append fun _ => isDigit_of_mem_padded
  rwa [length_padded hw h] at hs

theorem number_padded : number width (padded width n ++ rest) = some (n, rest) := by
  rw [number, bind_eq (someDigits_padded hw h)]
  exact lift_eq natural?_padded

theorem fixedNumber_padded : fixedNumber width (padded width n ++ rest) = some (n, rest) := by
  rw [fixedNumber, bind_eq (someDigits_padded hw h), if_pos (length_padded hw h)]
  exact lift_eq natural?_padded

end Padded

-- All digits up to a character that is none.
theorem allDigits_append (hne : ds ≠ []) (hd : ∀ c ∈ ds, isDigit c = true)
    (hr : rest.head?.any isDigit = false) : allDigits (ds ++ rest) = some (ds, rest) := by
  have hrest : rest.takeWhile isDigit = [] ∧ rest.dropWhile isDigit = rest := by
    cases rest with
    | nil => exact ⟨rfl, rfl⟩
    | cons c rest =>
      have hc : ¬isDigit c = true := by simpa using hr
      exact ⟨List.takeWhile_cons_of_neg hc, List.dropWhile_cons_of_neg hc⟩
  have htake : (ds ++ rest).takeWhile isDigit = ds := by
    rw [List.takeWhile_append_of_pos hd, hrest.left, List.append_nil]
  have hdrop : (ds ++ rest).dropWhile isDigit = rest := by
    rw [List.dropWhile_append_of_pos hd, hrest.right]
  rw [allDigits, htake, hdrop]
  cases ds with
  | nil => exact absurd rfl hne
  | cons => rfl

-- All that a reader can take a text for.
def Yields (r : Reader α) (p : α → Prop) : Prop := ∀ ⦃cs a rest⦄, r cs = some (a, rest) → p a

theorem Yields.bind {p : β → Prop} {q : α → Prop} (hr : Yields r q) (hf : ∀ a, q a → Yields (f a) p) :
    Yields (r >>= f) p := by
  intro cs b rest h
  obtain ⟨a, mid, ha, hb⟩ := bind_eq_some_iff.mp h
  exact hf a (hr ha) hb

theorem Yields.skip {p : β → Prop} (hf : ∀ a, Yields (f a) p) : Yields (r >>= f) p :=
  .bind (fun _ _ _ _ => trivial) fun a (_ : True) => hf a

theorem yields_lift {o : Option α} : Yields (liftM o) fun a => o = some a :=
  fun _ _ _ h => (lift_eq_some_iff.mp h).left

theorem yields_fixedNumber {count : Nat} : Yields (fixedNumber count) fun n => n < 10 ^ count := by
  refine .skip fun ds => ?_
  split
  case isTrue hl => exact fun _ _ _ h => hl ▸ lt_of_natural?_eq_some (yields_lift h)
  case isFalse =>
    intro _ _ _ h
    cases h

-- A number of a fixed length is refused where no digit stands.
theorem fixedNumber_eq_none {count : Nat} (hc : 0 < count) (h : isDigit c = false) :
    fixedNumber count (c :: cs) = none := by
  obtain ⟨k, rfl⟩ := Nat.exists_eq_succ_of_ne_zero (Nat.ne_of_gt hc)
  have hs : someDigits (k + 1) (c :: cs) = some ([], c :: cs) := by
    rw [someDigits, List.take_succ_cons, List.takeWhile_cons_of_neg (by simp [h])]
    rfl
  rw [fixedNumber, bind_eq hs, if_neg (by simp)]
  rfl

end Reader

end SqlBuilder.Text
