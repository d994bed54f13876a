import SqlBuilder.Calendar.TimeOfDay
import SqlBuilder.Proofs.Text.Reader
/-!
Days and fractions of seconds are read back from what is written of them, whatever follows in the text.
-/
namespace SqlBuilder.Calendar

open Text

variable {n width : Nat} {c : Char} {cs ds rest : List Char}

namespace Date

variable {d : Date} {year : Int} {month day : Nat} {tight : Bool}

theorem of?_self : of? d.year d.month d.day = some d := by
  rw [of?, dif_pos d.year_inRange, dif_pos d.month_inRange, dif_pos d.day_inRange]

theorem of?_eq_some (h : of? year month day = some d) : d.year = year ∧ d.month = month ∧ d.day = day := by
  rw [of?] at h
  split at h
  case isFalse => cases h
  split at h
  case isFalse => cases h
  split at h
  case isFalse => cases h
  cases h
  exact ⟨rfl, rfl, rfl⟩

theorem month_lt : d.month < 100 := by
  have h := d.month_inRange
  omega

theorem day_lt : d.day < 100 := by
  have hd := d.day_inRange
  have hm : daysInMonth d.year d.month ≤ 31 := by
    rw [daysInMonth]
    split
    case isTrue =>
      split
      all_goals decide
    case isFalse =>
      split
      all_goals decide
  omega

theorem readYear_unbounded (h : rest.head?.any isDigit = false) :
    readYear.unbounded (padded width n ++ rest) = some (n, rest) := by
  have hd : Reader.allDigits (padded width n ++ rest) = some (padded width n, rest) :=
    Reader.allDigits_append (padded_ne_nil width n) (fun _ => isDigit_of_mem_padded) h
  rw [readYear.unbounded, Reader.bind_eq hd]
  exact Reader.lift_eq natural?_padded

theorem readYear_minus (h : rest.head?.any isDigit = false) :
    readYear ('-' :: (padded width n ++ rest)) = some (-(n : Int), rest) := by
  rw [readYear, Reader.bind_eq (Reader.blanks_eq rfl), Reader.bind_eq Reader.get_eq]
  simp only
  rw [Reader.bind_eq Reader.set_eq, Reader.bind_eq (readYear_unbounded h), Reader.pure_eq, Int.ofNat_eq_natCast]

theorem readYear_plus (h : rest.head?.any isDigit = false) :
    readYear ('+' :: (padded width n ++ rest)) = some ((n : Int), rest) := by
  rw [readYear, Reader.bind_eq (Reader.blanks_eq rfl), Reader.bind_eq Reader.get_eq]
  simp only
  rw [Reader.bind_eq Reader.set_eq, Reader.bind_eq (readYear_unbounded h), Reader.pure_eq, Int.ofNat_eq_natCast]

theorem readYear_of_isDigit (h : isDigit c = true) :
    readYear (c :: cs) = (do return Int.ofNat (← Reader.number 4) : Reader Int) (c :: cs) := by
  have hb : (c :: cs).head?.any isBlank = false := isBlank_of_isDigit h
  have hminus : c ≠ '-' := by
    rintro rfl
    cases h
  have hplus : c ≠ '+' := by
    rintro rfl
    cases h
  rw [readYear, Reader.bind_eq (Reader.blanks_eq hb), Reader.bind_eq Reader.get_eq]
  simp [hminus, hplus]

-- A year without a sign begins with a digit.
theorem readYear_padded (h : n < 10000) : readYear (padded 4 n ++ rest) = some ((n : Int), rest) := by
  obtain ⟨c, cs, hc, hd⟩ := padded_eq_cons 4 n
  have hn : Reader.number 4 (padded 4 n ++ rest) = some (n, rest) := Reader.number_padded (by decide) h
  rw [hc, List.cons_append] at hn ⊢
  rw [readYear_of_isDigit hd, Reader.bind_eq hn, Reader.pure_eq, Int.ofNat_eq_natCast]

theorem readYear_yearText (h : rest.head?.any isDigit = false) :
    readYear (yearText year ++ rest) = some (year, rest) := by
  rw [yearText]
  split
  case isTrue =>
    have hy : -(year.natAbs : Int) = year := by omega
    rw [List.cons_append, readYear_minus h, hy]
  case isFalse =>
    have hy : (year.natAbs : Int) = year := by omega
    split
    case isTrue => rw [readYear_padded (by omega), hy]
    case isFalse => rw [List.cons_append, readYear_plus h, hy]

theorem readPair_padded (h : n < 100) : readPair (padded 2 n ++ rest) = some (n, rest) := by
  rw [readPair, Reader.bind_eq Reader.blanks_padded]
  exact Reader.number_padded (by decide) h

-- The white space that is allowed between a number and a hyphen.
def gap (tight : Bool) : Reader Unit := if tight then pure () else Reader.blanks

theorem gap_eq (h : cs.head?.any isBlank = false) : gap tight cs = some ((), cs) := by
  cases tight with
  | true => rfl
  | false => exact Reader.blanks_eq h

theorem reader_eq : reader tight = (do
    let year ← readYear
    gap tight
    Reader.char '-'
    let month ← readPair
    gap tight
    Reader.char '-'
    let day ← readPair
    (of? year month day : Option Date)) := by
  cases tight with
  | true => rfl
  | false => rfl

theorem reader_chars : reader tight (d.chars ++ rest) = some (d, rest) := by
  rw [reader_eq, chars, List.append_assoc, List.cons_append, List.append_assoc, List.cons_append,
    Reader.bind_eq (readYear_yearText rfl), Reader.bind_eq (gap_eq rfl), Reader.bind_eq Reader.char_cons,
    Reader.bind_eq (readPair_padded month_lt), Reader.bind_eq (gap_eq rfl), Reader.bind_eq Reader.char_cons,
    Reader.bind_eq (readPair_padded day_lt)]
  exact Reader.lift_eq of?_self

theorem ofText?_text : ofText? d.text = some d := by
  rw [ofText?, Reader.read?_eq_some_iff, text, String.toList_ofList]
  have hr : reader false d.chars = some (d, []) := Reader.eq_of_forall_append fun _ => reader_chars
  rw [Reader.bind_eq hr, Reader.bind_eq (Reader.blanks_eq rfl), Reader.pure_eq]

end Date

namespace TimeOfDay

variable {t : TimeOfDay} {hour minute second nanosecond k : Nat}

theorem of?_self : of? t.hour t.minute t.second t.nanosecond = some t := by
  rw [of?, dif_pos t.hour_lt, dif_pos t.minute_lt, dif_pos t.second_le, dif_pos t.nanosecond_lt]

theorem of?_eq_some (h : of? hour minute second nanosecond = some t) :
    t.hour = hour ∧ t.minute = minute ∧ t.second = second ∧ t.nanosecond = nanosecond := by
  rw [of?] at h
  split at h
  case isFalse => cases h
  split at h
  case isFalse => cases h
  split at h
  case isFalse => cases h
  split at h
  case isFalse => cases h
  cases h
  exact ⟨rfl, rfl, rfl, rfl⟩

theorem minutes_lt : t.minutes < 1440 := by
  have hh := t.hour_lt
  have hm := t.minute_lt
  rw [minutes]
  omega

-- Up to nine digits stand for the number that they are when filled up with zeros on the right.
theorem nanosecondsOf_eq (h : ds.length ≤ 9) :
    nanosecondsOf ds = (natural? (ds ++ List.replicate (9 - ds.length) '0')).getD 0 := by
  rw [nanosecondsOf, List.take_append, List.take_of_length_le h, List.take_replicate,
    Nat.min_eq_left (Nat.sub_le 9 ds.length)]

theorem nanosecondsOf_padded (hw : 0 < width) (hle : width ≤ 9) (h : k < 10 ^ width) :
    nanosecondsOf (padded width k) = k * 10 ^ (9 - width) := by
  have hl := length_padded hw h
  have hne : padded width k ++ List.replicate (9 - width) '0' ≠ [] :=
    List.append_ne_nil_of_left_ne_nil (padded_ne_nil width k) _
  rw [nanosecondsOf_eq (hl.symm ▸ hle), hl, natural?_of_ne_nil hne, readDigits?_append, readDigits?_padded,
    Option.bind_some, readDigits?_zeros, Option.getD_some]

-- How a number of nanoseconds is written behind whole seconds.
inductive IsFraction : List Char → Nat → Prop
  | none : IsFraction [] 0
  | digits {ds : List Char} (hne : ds ≠ []) (hd : ∀ c ∈ ds, isDigit c = true) :
    IsFraction ('.' :: ds) (nanosecondsOf ds)

theorem IsFraction.read (h : IsFraction cs n) (hd : rest.head?.any isDigit = false)
    (hp : rest.head? ≠ some '.') : readFraction (cs ++ rest) = some (n, rest) := by
  cases h with
  | none =>
    rw [readFraction, List.nil_append, Reader.bind_eq Reader.get_eq]
    cases rest with
    | nil => rfl
    | cons c rest =>
      have hc : c ≠ '.' := by simpa using hp
      simp [hc, Reader.pure_eq]
  | digits hne hds =>
    rw [readFraction, List.cons_append, Reader.bind_eq Reader.get_eq]
    simp only
    rw [Reader.bind_eq Reader.set_eq, Reader.bind_eq (Reader.allDigits_append hne hds hd), Reader.pure_eq]

theorem isFraction_padded (hw : 0 < width) (hle : width ≤ 9) (hk : k < 10 ^ width)
    (hn : k * 10 ^ (9 - width) = n) : IsFraction ('.' :: padded width k) n := by
  rw [← hn, ← nanosecondsOf_padded hw hle hk]
  exact .digits (padded_ne_nil width k) fun _ => isDigit_of_mem_padded

theorem isFraction_groupedFraction : IsFraction t.groupedFraction t.nanosecond := by
  have hn := t.nanosecond_lt
  rw [groupedFraction]
  split
  case isTrue h0 => exact h0 ▸ .none
  case isFalse =>
    split
    case isTrue => exact isFraction_padded (by decide) (by decide) (by omega) (by omega)
    case isFalse =>
      split
      case isTrue => exact isFraction_padded (by decide) (by decide) (by omega) (by omega)
      case isFalse => exact isFraction_padded (by decide) (by decide) (by omega) (by omega)

-- Zeros that are left out at the end can be filled up again.
theorem exists_zeros (ds : List Char) :
    ∃ k, (ds.reverse.dropWhile (· = '0')).reverse ++ List.replicate k '0' = ds := by
  refine ⟨(ds.reverse.takeWhile (· = '0')).length, ?_⟩
  have hz : ds.reverse.takeWhile (· = '0') = List.replicate _ '0' :=
    List.eq_replicate_of_mem fun c hc => by simpa using List.mem_takeWhile_imp hc
  rw [← List.reverse_replicate, ← hz, ← List.reverse_append, List.takeWhile_append_dropWhile,
    List.reverse_reverse]

theorem isFraction_shortestFraction : IsFraction t.shortestFraction t.nanosecond := by
  rw [shortestFraction]
  split
  case isTrue h0 => exact h0 ▸ .none
  case isFalse h0 =>
    obtain ⟨k, hk⟩ := exists_zeros (padded 9 t.nanosecond)
    generalize ((padded 9 t.nanosecond).reverse.dropWhile (· = '0')).reverse = ds at hk ⊢
    have hl : ds.length + k = 9 := by
      have h9 : (padded 9 t.nanosecond).length = 9 := length_padded (by decide) t.nanosecond_lt
      simpa [← hk] using h9
    have hv : nanosecondsOf ds = t.nanosecond := by
      have h9 : 9 - ds.length = k := by omega
      rw [nanosecondsOf_eq (by omega), h9, hk, natural?_padded, Option.getD_some]
    have hne : ds ≠ [] := by
      rintro rfl
      exact h0 hv.symm
    rw [← hv]
    exact .digits hne fun c hc => isDigit_of_mem_padded (hk ▸ List.mem_append_left _ hc)

end TimeOfDay

end SqlBuilder.Calendar
