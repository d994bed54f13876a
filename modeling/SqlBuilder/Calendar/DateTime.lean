import SqlBuilder.Calendar.TimeOfDay
/-!
Days with a time of day but no time zone, written `2024-01-02 03:04:05.678`.
-/
namespace SqlBuilder.Calendar

open Text

structure DateTime where
  date : Date
  time : TimeOfDay
  deriving DecidableEq

namespace DateTime

-- Moves by minutes, at most a day, keeping seconds. None if this leaves the range of dates.
def shift? (t : DateTime) (minutes : Int) : Option DateTime :=
  let total := t.time.minutes + minutes
  let date? := if total < 0 then t.date.previous? else if 1440 ≤ total then t.date.next? else some t.date
  let clock := (total % 1440).toNat
  match date?, TimeOfDay.of? (clock / 60) (clock % 60) t.time.second t.time.nanosecond with
  | some date, some time => some ⟨date, time⟩
  | _, _ => none

def text (t : DateTime) : String :=
  String.ofList (t.date.chars ++ ' ' :: (t.time.clockChars ++ t.time.groupedFraction))

-- Date and time with white space, if any, between them, and none inside but in front of numbers.
def spaced : Reader DateTime := do
  let date ← Date.reader true
  Reader.blanks
  let hour ← Date.readPair
  Reader.char ':'
  let minute ← Date.readPair
  Reader.char ':'
  let second ← Date.readPair
  let nanosecond ← TimeOfDay.readFraction
  let time ← (TimeOfDay.of? hour minute second nanosecond : Option TimeOfDay)
  return ⟨date, time⟩

-- Date and time with a `T` between them and white space allowed around all parts.
def lettered : Reader DateTime := do
  let date ← Date.reader false
  Reader.blanks
  Reader.char 'T'
  let hour ← Date.readPair
  Reader.blanks
  Reader.char ':'
  let minute ← Date.readPair
  Reader.blanks
  Reader.char ':'
  let second ← Date.readPair
  let nanosecond ← TimeOfDay.readFraction
  Reader.blanks
  let time ← (TimeOfDay.of? hour minute second nanosecond : Option TimeOfDay)
  return ⟨date, time⟩

def ofText? (s : String) : Option DateTime := spaced.read? s <|> lettered.read? s

end DateTime

end SqlBuilder.Calendar
