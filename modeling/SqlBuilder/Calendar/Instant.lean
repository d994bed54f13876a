import SqlBuilder.Calendar.DateTime
/-!
Points in time, written with their distance from universal time as RFC 3339 lays down.
-/
namespace SqlBuilder.Calendar

open Text

-- A date and time on a clock that is `offset` minutes ahead of universal time.
structure Zoned where
  clock : DateTime
  offset : Int
  offset_inRange : -1440 < offset ∧ offset < 1440
  deriving DecidableEq

namespace Zoned

-- The same point in time on the clock of universal time.
def universal? (z : Zoned) : Option DateTime := z.clock.shift? (-z.offset)

-- Hours and minutes ahead of universal time, or behind it.
def offset? (ahead : Bool) (hours minutes : Nat) : Option Int :=
  if hours < 24 ∧ minutes < 60 then
    let total := Int.ofNat (60 * hours + minutes)
    some (if ahead then total else -total)
  else none

def of? (clock : DateTime) (offset : Int) : Option Zoned :=
  if h : -1440 < offset ∧ offset < 1440 then some ⟨clock, offset, h⟩ else none

-- `Z`, or a sign with hours and minutes. The characters that count as a minus sign are given.
def readOffset (minus : List Char) : Reader Int := do
  let sign ← Reader.satisfy fun c => c = 'Z' || c = 'z' || c = '+' || c ∈ minus
  if sign = 'Z' || sign = 'z' then return 0
  let hours ← Reader.fixedNumber 2
  Reader.char ':'
  let minutes ← Reader.fixedNumber 2
  (offset? (sign = '+') hours minutes : Option Int)

-- A date, a separator, a time and an offset, all numbers with their full count of digits.
def reader (separates : Char → Bool) (minus : List Char) : Reader Zoned := do
  let year ← Reader.fixedNumber 4
  Reader.char '-'
  let month ← Reader.fixedNumber 2
  Reader.char '-'
  let day ← Reader.fixedNumber 2
  let _ ← Reader.satisfy separates
  let hour ← Reader.fixedNumber 2
  Reader.char ':'
  let minute ← Reader.fixedNumber 2
  Reader.char ':'
  let second ← Reader.fixedNumber 2
  let nanosecond ← TimeOfDay.readFraction
  let offset ← readOffset minus
  let date ← (Date.of? year month day : Option Date)
  let time ← (TimeOfDay.of? hour minute second nanosecond : Option TimeOfDay)
  (of? ⟨date, time⟩ offset : Option Zoned)

end Zoned

-- A point in time, kept on the clock of universal time.
structure Instant where
  clock : DateTime
  deriving DecidableEq

namespace Instant

-- The offset is always written as `+00:00`.
def text (t : Instant) : String :=
  String.ofList (t.clock.date.chars ++ 'T' :: (t.clock.time.clockChars ++ t.clock.time.groupedFraction
    ++ "+00:00".toList))

-- Date and time are separated by a `T` of either case or a space.
def ofText? (s : String) : Option Instant := do
  let z ← (Zoned.reader (fun c => c = 'T' || c = 't' || c = ' ') ['-', '−']).read? s
  let clock ← z.universal?
  return ⟨clock⟩

end Instant

namespace Zoned

-- A leap second is the last second of a month in universal time. There it stands for the last
-- nanosecond before it, anywhere else it is refused.
def settleLeapSecond? (z : Zoned) : Option Zoned :=
  if z.clock.time.second < 60 then some z
  else do
    let universal ← z.universal?
    if universal.time.minutes = 1439 && universal.date.isLastOfMonth then
      let time ← TimeOfDay.of? z.clock.time.hour z.clock.time.minute 59 999999999
      return { z with clock := { z.clock with time } }
    else none

def offsetChars (offset : Int) : List Char :=
  if offset = 0 then ['Z']
  else (if offset < 0 then '-' else '+')
    :: (padded 2 (offset.natAbs / 60) ++ ':' :: padded 2 (offset.natAbs % 60))

-- The clock and the offset as they are, with `Z` for universal time.
def chars (z : Zoned) : List Char :=
  z.clock.date.chars ++ 'T' :: (z.clock.time.clockChars ++ z.clock.time.shortestFraction ++ offsetChars z.offset)

-- The form for showing, with the fewest digits for the hour, a fraction even if it is none, and an offset with
-- its seconds.
def shownChars (z : Zoned) : List Char :=
  let time := z.clock.time
  let fraction := if time.nanosecond = 0 then ".0".toList else time.shortestFraction
  let sign := if z.offset < 0 then '-' else '+'
  z.clock.date.chars ++ ' ' :: (digits time.hour ++ ':' :: (padded 2 time.minute ++ ':' :: (padded 2 time.second ++
    fraction ++ ' ' :: sign :: (padded 2 (z.offset.natAbs / 60) ++ ':' :: (padded 2 (z.offset.natAbs % 60) ++
    ":00".toList)))))

-- RFC 3339 has a form for the years of four digits only.
def text (z : Zoned) : String :=
  String.ofList (if 0 ≤ z.clock.date.year ∧ z.clock.date.year ≤ 9999 then z.chars else z.shownChars)

-- Date and time are separated by any character of one byte.
def ofText? (s : String) : Option Zoned := do
  let z ← (reader (fun c => c.toNat < 128) ['-']).read? s
  settleLeapSecond? z

end Zoned

end SqlBuilder.Calendar
