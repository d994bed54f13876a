import SqlBuilder.Calendar.Instant
import SqlBuilder.Proofs.Calendar.Date
/-!
Dates with a time of day are read back from the texts that they are written as. Points in time are, as long
as their year has the four digits that a reader asks for. A point in time is read on a clock whose year has
four digits, which on the clock of universal time may be the last day before those years or the first day after.
-/
namespace SqlBuilder.Calendar

open Text

variable {cs rest : List Char} {s : String}

namespace Date

variable {d d' : Date}

theorem next?_eq_some (h : d.next? = some d') :
    d'.year = d.year ∨ d'.year = d.year + 1 ∧ d'.month = 1 ∧ d'.day = 1 := by
  rw [next?] at h
  split at h
  case isTrue => exact .inl (of?_eq_some h).left
  case isFalse =>
    split at h
    case isTrue => exact .inl (of?_eq_some h).left
    case isFalse => exact .inr (of?_eq_some h)

theorem previous?_eq_some (h : d.previous? = some d') :
    d'.year = d.year ∨ d'.year = d.year - 1 ∧ d'.month = 12 ∧ d'.day = 31 := by
  rw [previous?] at h
  split at h
  case isTrue => exact .inl (of?_eq_some h).left
  case isFalse =>
    split at h
    case isTrue => exact .inl (of?_eq_some h).left
    case isFalse => exact .inr (of?_eq_some h)

-- The years that are written without a sign, in four digits.
def IsPlain (year : Int) : Prop := 0 ≤ year ∧ year ≤ 9999

instance {year : Int} : Decidable (IsPlain year) := inferInstanceAs (Decidable (_ ∧ _))

theorem chars_of_isPlain (h : IsPlain d.year) :
    d.chars = padded 4 d.year.natAbs ++ '-' :: (padded 2 d.month ++ '-' :: padded 2 d.day) := by
  rw [chars, yearText, if_neg (Int.not_lt.mpr h.left), if_pos h.right]

theorem chars_of_not_isPlain (h : ¬IsPlain d.year) : ∃ c cs, d.chars = c :: cs ∧ isDigit c = false := by
  rw [chars, yearText]
  split
  case isTrue => exact ⟨_, _, rfl, rfl⟩
  case isFalse h0 =>
    rw [if_neg fun h9 => h ⟨by omega, h9⟩]
    exact ⟨_, _, rfl, rfl⟩

end Date

theorem TimeOfDay.clockChars_append {t : TimeOfDay} : t.clockChars ++ rest =
    padded 2 t.hour ++ ':' :: (padded 2 t.minute ++ ':' :: (padded 2 t.second ++ rest)) := by
  simp only [clockChars, List.append_assoc, List.cons_append]

namespace DateTime

variable {t t' : DateTime} {minutes : Int}

theorem spaced_chars (hf : TimeOfDay.IsFraction cs t.time.nanosecond) :
    spaced (t.date.chars ++ ' ' :: (t.time.clockChars ++ cs)) = some (t, []) := by
  have hh := t.time.hour_lt
  have hm := t.time.minute_lt
  have hs := t.time.second_le
  have hn : TimeOfDay.readFraction (cs ++ []) = some (t.time.nanosecond, []) := hf.read rfl (by simp)
  rw [List.append_nil] at hn
  rw [spaced, Reader.bind_eq Date.reader_chars, TimeOfDay.clockChars_append,
    Reader.bind_eq (Reader.blanks_space.trans Reader.blanks_padded),
    Reader.bind_eq (Date.readPair_padded (by omega)), Reader.bind_eq Reader.char_cons,
    Reader.bind_eq (Date.readPair_padded (by omega)), Reader.bind_eq Reader.char_cons,
    Reader.bind_eq (Date.readPair_padded (by omega)), Reader.bind_eq hn,
    Reader.bind_eq (Reader.lift_eq TimeOfDay.of?_self), Reader.pure_eq]

theorem ofText?_text : ofText? t.text = some t := by
  have h : spaced.read? t.text = some t := by
    rw [Reader.read?_eq_some_iff, text, String.toList_ofList]
    exact spaced_chars TimeOfDay.isFraction_groupedFraction
  rw [ofText?, h]
  rfl

theorem shift?_zero : t.shift? 0 = some t := by
  have hlt := t.time.minutes_lt
  have hm := t.time.minute_lt
  have htotal : ((t.time.minutes : Int) % 1440).toNat = t.time.minutes := by omega
  have hhour : t.time.minutes / 60 = t.time.hour := by
    rw [TimeOfDay.minutes]
    omega
  have hminute : t.time.minutes % 60 = t.time.minute := by
    rw [TimeOfDay.minutes]
    omega
  rw [shift?]
  simp only [Int.add_zero]
  rw [if_neg (by omega), if_neg (by omega), htotal, hhour, hminute, TimeOfDay.of?_self]

theorem shift?_eq_some (h : t.shift? minutes = some t') : t'.date.year = t.date.year ∨
    t'.date.year = t.date.year - 1 ∧ t'.date.month = 12 ∧ t'.date.day = 31 ∨
    t'.date.year = t.date.year + 1 ∧ t'.date.month = 1 ∧ t'.date.day = 1 := by
  rw [shift?] at h
  split at h
  case h_2 => cases h
  case h_1 date time hdate _ =>
    cases h
    split at hdate
    case isTrue => exact (Date.previous?_eq_some hdate).elim .inl fun h => .inr (.inl h)
    case isFalse =>
      split at hdate
      case isTrue => exact (Date.next?_eq_some hdate).elim .inl fun h => .inr (.inr h)
      case isFalse =>
        cases hdate
        exact .inl rfl

end DateTime

namespace Zoned

variable {z z' : Zoned} {d : Date} {separates : Char → Bool} {minus : List Char}

theorem of?_self : of? z.clock z.offset = some z := by
  rw [of?, dif_pos z.offset_inRange]

theorem of?_eq_some {clock : DateTime} {offset : Int} (h : of? clock offset = some z) : z.clock = clock := by
  rw [of?] at h
  split at h
  case isTrue =>
    cases h
    rfl
  case isFalse => cases h

-- The offset begins with neither a digit nor a point, so that the fraction ends in front of it.
theorem reader_chars {fraction zone : List Char} (hy : Date.IsPlain z.clock.date.year)
    (hT : separates 'T' = true) (hf : TimeOfDay.IsFraction fraction z.clock.time.nanosecond)
    (hd : zone.head?.any isDigit = false) (hp : zone.head? ≠ some '.')
    (hz : readOffset minus zone = some (z.offset, [])) :
    reader separates minus (z.clock.date.chars ++ 'T' :: (z.clock.time.clockChars ++ (fraction ++ zone))) =
      some (z, []) := by
  have hh := z.clock.time.hour_lt
  have hm := z.clock.time.minute_lt
  have hs := z.clock.time.second_le
  have hyear : (z.clock.date.year.natAbs : Int) = z.clock.date.year := Int.natAbs_of_nonneg hy.left
  have hdate : Date.of? z.clock.date.year.natAbs z.clock.date.month z.clock.date.day = some z.clock.date :=
    hyear.symm ▸ Date.of?_self
  have hplain := hy.right
  rw [reader, TimeOfDay.clockChars_append, Date.chars_of_isPlain hy]
  simp only [List.append_assoc, List.cons_append]
  rw [Reader.bind_eq (Reader.fixedNumber_padded (by decide) (by omega)), Reader.bind_eq Reader.char_cons,
    Reader.bind_eq (Reader.fixedNumber_padded (by decide) Date.month_lt), Reader.bind_eq Reader.char_cons,
    Reader.bind_eq (Reader.fixedNumber_padded (by decide) Date.day_lt),
    Reader.bind_eq (Reader.satisfy_cons hT),
    Reader.bind_eq (Reader.fixedNumber_padded (by decide) (by omega)), Reader.bind_eq Reader.char_cons,
    Reader.bind_eq (Reader.fixedNumber_padded (by decide) (by omega)), Reader.bind_eq Reader.char_cons,
    Reader.bind_eq (Reader.fixedNumber_padded (by decide) (by omega)), Reader.bind_eq (hf.read hd hp),
    Reader.bind_eq hz, Reader.bind_eq (Reader.lift_eq hdate),
    Reader.bind_eq (Reader.lift_eq TimeOfDay.of?_self)]
  exact Reader.lift_eq of?_self

-- Nothing that stands between the year and the end of the text has a say in the year.
theorem yields_reader : Reader.Yields (reader separates minus) fun z => Date.IsPlain z.clock.date.year := by
  refine .bind Reader.yields_fixedNumber fun year hyear => ?_
  iterate 12 refine .skip fun _ => ?_
  refine .bind Reader.yields_lift fun date hdate => ?_
  refine .skip fun time _ z _ h => ?_
  have hclock : z.clock = ⟨date, time⟩ := of?_eq_some (Reader.yields_lift h)
  have hdate : date.year = year := (Date.of?_eq_some hdate).left
  have hlt : year < 10000 := hyear
  rw [hclock, hdate]
  exact ⟨by omega, by omega⟩

theorem reader_eq_none (h : ¬Date.IsPlain d.year) : reader separates minus (d.chars ++ rest) = none := by
  obtain ⟨c, cs, hc, hd⟩ := Date.chars_of_not_isPlain h
  rw [reader, hc, List.cons_append, Reader.bind_eq_none (Reader.fixedNumber_eq_none (by decide) hd)]

theorem readOffset_signed {sign : Char} {hours minutes : Nat} {offset : Int} (hs : sign = '+' ∨ sign = '-')
    (hh : hours < 24) (hm : minutes < 60) (ho : offset? (sign = '+') hours minutes = some offset) :
    readOffset ['-'] (sign :: (padded 2 hours ++ ':' :: padded 2 minutes)) = some (offset, []) := by
  have hminutes : Reader.fixedNumber 2 (padded 2 minutes) = some (minutes, []) :=
    Reader.eq_of_forall_append fun _ => Reader.fixedNumber_padded (by decide) (by omega)
  have hsign : (sign = 'Z' || sign = 'z' || sign = '+' || sign ∈ ['-']) = true := by
    obtain rfl | rfl := hs
    all_goals rfl
  have hzulu : ¬(sign = 'Z' || sign = 'z') = true := by
    obtain rfl | rfl := hs
    all_goals decide
  rw [readOffset, Reader.bind_eq (Reader.satisfy_cons hsign), if_neg hzulu,
    Reader.bind_eq (Reader.fixedNumber_padded (by decide) (by omega)), Reader.bind_eq Reader.char_cons,
    Reader.bind_eq hminutes]
  exact Reader.lift_eq ho

theorem readOffset_offsetChars : readOffset ['-'] (offsetChars z.offset) = some (z.offset, []) := by
  have hin := z.offset_inRange
  have hhours : z.offset.natAbs / 60 < 24 := by omega
  have hminutes : z.offset.natAbs % 60 < 60 := by omega
  rw [offsetChars]
  split
  case isTrue h0 => exact h0 ▸ rfl
  case isFalse =>
    refine readOffset_signed ?sign hhours hminutes ?offset
    case sign =>
      split
      · exact .inr rfl
      · exact .inl rfl
    case offset =>
      rw [offset?, if_pos ⟨hhours, hminutes⟩, Nat.div_add_mod]
      split
      all_goals
        simp only [Char.reduceEq, decide_false, decide_true, Bool.false_eq_true, if_false, if_true,
          Option.some.injEq, Int.ofNat_eq_natCast]
        omega

theorem settleLeapSecond?_eq_some (h : settleLeapSecond? z = some z') :
    z'.clock.date = z.clock.date ∧ z'.clock.time.second < 60 := by
  rw [settleLeapSecond?] at h
  split at h
  case isTrue hlt =>
    cases h
    exact ⟨rfl, hlt⟩
  case isFalse =>
    obtain ⟨universal, _, h⟩ := Option.bind_eq_some_iff.mp h
    split at h
    case isFalse => cases h
    case isTrue =>
      obtain ⟨time, htime, h⟩ := Option.bind_eq_some_iff.mp h
      cases h
      exact ⟨rfl, (TimeOfDay.of?_eq_some htime).right.right.left ▸ by decide⟩

theorem settleLeapSecond?_of_lt (h : z.clock.time.second < 60) : settleLeapSecond? z = some z := by
  rw [settleLeapSecond?, if_pos h]

theorem head_offsetChars {offset : Int} : (offsetChars offset).head?.any isDigit = false ∧
    (offsetChars offset).head? ≠ some '.' := by
  rw [offsetChars]
  split
  case isTrue => exact ⟨rfl, by decide⟩
  case isFalse =>
    split
    all_goals exact ⟨rfl, by simp⟩

theorem ofText?_eq_some (h : ofText? s = some z) :
    Date.IsPlain z.clock.date.year ∧ z.clock.time.second < 60 := by
  obtain ⟨y, hy, h⟩ := Option.bind_eq_some_iff.mp h
  have hplain : Date.IsPlain y.clock.date.year := yields_reader (Reader.read?_eq_some_iff.mp hy)
  have hsettled := settleLeapSecond?_eq_some h
  exact ⟨hsettled.left ▸ hplain, hsettled.right⟩

theorem ofText?_text (hy : Date.IsPlain z.clock.date.year) (hs : z.clock.time.second < 60) :
    ofText? z.text = some z := by
  have htext : z.text = String.ofList z.chars := congrArg String.ofList (if_pos hy)
  have hr : (reader (fun c => c.toNat < 128) ['-']).read? z.text = some z := by
    rw [Reader.read?_eq_some_iff, htext, String.toList_ofList, chars, List.append_assoc]
    exact reader_chars hy rfl TimeOfDay.isFraction_shortestFraction head_offsetChars.left
      head_offsetChars.right readOffset_offsetChars
  rw [ofText?, hr]
  exact settleLeapSecond?_of_lt hs

theorem ofText?_text_eq_none (hy : ¬Date.IsPlain z.clock.date.year) : ofText? z.text = none := by
  have htext : z.text = String.ofList z.shownChars := congrArg String.ofList (if_neg hy)
  rw [ofText?, Reader.read?_eq_none]
  · rfl
  · rw [htext, String.toList_ofList]
    exact reader_eq_none hy

end Zoned

namespace Instant

variable {t : Instant}

-- The days next to the years of four digits.
def IsOutlying (t : Instant) : Prop :=
  t.clock.date.year = -1 ∧ t.clock.date.month = 12 ∧ t.clock.date.day = 31 ∨
  t.clock.date.year = 10000 ∧ t.clock.date.month = 1 ∧ t.clock.date.day = 1

theorem IsOutlying.not_isPlain (h : t.IsOutlying) : ¬Date.IsPlain t.clock.date.year := by
  rw [Date.IsPlain]
  obtain ⟨hyear, -⟩ | ⟨hyear, -⟩ := h
  all_goals omega

theorem ofText?_eq_some (h : ofText? s = some t) : Date.IsPlain t.clock.date.year ∨ t.IsOutlying := by
  obtain ⟨z, hz, h⟩ := Option.bind_eq_some_iff.mp h
  obtain ⟨clock, hclock, h⟩ := Option.bind_eq_some_iff.mp h
  cases h
  have hplain : Date.IsPlain z.clock.date.year := Zoned.yields_reader (Reader.read?_eq_some_iff.mp hz)
  by_cases hp : Date.IsPlain clock.date.year
  case pos => exact .inl hp
  case neg =>
    obtain hyear | ⟨hyear, hday⟩ | ⟨hyear, hday⟩ := DateTime.shift?_eq_some hclock
    case inl => exact absurd (hyear ▸ hplain) hp
    all_goals rw [Date.IsPlain] at hp hplain
    case inr.inl =>
      have hfirst : clock.date.year = -1 := by omega
      exact .inr (.inl ⟨hfirst, hday⟩)
    case inr.inr =>
      have hlast : clock.date.year = 10000 := by omega
      exact .inr (.inr ⟨hlast, hday⟩)

theorem ofText?_text (hy : Date.IsPlain t.clock.date.year) : ofText? t.text = some t := by
  let z : Zoned := ⟨t.clock, 0, by decide⟩
  have hr : (Zoned.reader (fun c => c = 'T' || c = 't' || c = ' ') ['-', '−']).read? t.text = some z := by
    rw [Reader.read?_eq_some_iff, text, String.toList_ofList, List.append_assoc]
    exact Zoned.reader_chars (z := z) hy rfl TimeOfDay.isFraction_groupedFraction rfl (by decide) rfl
  have hu : z.universal? = some t.clock := DateTime.shift?_zero
  rw [ofText?, hr]
  simp [hu]

theorem ofText?_text_eq_none (hy : ¬Date.IsPlain t.clock.date.year) : ofText? t.text = none := by
  rw [ofText?, Reader.read?_eq_none]
  · rfl
  · rw [text, String.toList_ofList]
    exact Zoned.reader_eq_none hy

end Instant

end SqlBuilder.Calendar
