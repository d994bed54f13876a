import SqlBuilder.Calendar.Date
/-!
Times of day to the nanosecond.
-/
namespace SqlBuilder.Calendar

open Text

structure TimeOfDay where
  hour : Nat
  minute : Nat
  -- 60 is a leap second
  second : Nat
  nanosecond : Nat
  hour_lt : hour < 24
  minute_lt : minute < 60
  second_le : second ≤ 60
  nanosecond_lt : nanosecond < 1000000000
  deriving DecidableEq

namespace TimeOfDay

def of? (hour minute second nanosecond : Nat) : Option TimeOfDay :=
  if hh : hour < 24 then
    if hm : minute < 60 then
      if hs : second ≤ 60 then
        if hn : nanosecond < 1000000000 then some ⟨hour, minute, second, nanosecond, hh, hm, hs, hn⟩
        else none
      else none
    else none
  else none

def minutes (t : TimeOfDay) : Nat := 60 * t.hour + t.minute

-- The nanoseconds that the digits after a decimal point stand for. Digits after the ninth are dropped.
def nanosecondsOf (fraction : List Char) : Nat :=
  (natural? ((fraction ++ List.replicate 9 '0').take 9)).getD 0

-- A point and at least one digit, or nothing.
def readFraction : Reader Nat := do
  match ← get with
  | '.' :: cs => do
    set cs
    return nanosecondsOf (← Reader.allDigits)
  | _ => return 0

-- Hours, minutes and whole seconds.
def clockChars (t : TimeOfDay) : List Char :=
  padded 2 t.hour ++ ':' :: (padded 2 t.minute ++ ':' :: padded 2 t.second)

-- A point and the nanoseconds in the fewest whole groups of three digits, nothing for none.
def groupedFraction (t : TimeOfDay) : List Char :=
  if t.nanosecond = 0 then []
  else if t.nanosecond % 1000000 = 0 then '.' :: padded 3 (t.nanosecond / 1000000)
  else if t.nanosecond % 1000 = 0 then '.' :: padded 6 (t.nanosecond / 1000)
  else '.' :: padded 9 t.nanosecond

-- A point and the nanoseconds without the zeros at the end, nothing for none.
def shortestFraction (t : TimeOfDay) : List Char :=
  if t.nanosecond = 0 then []
  else '.' :: ((padded 9 t.nanosecond).reverse.dropWhile (· = '0')).reverse

end TimeOfDay

end SqlBuilder.Calendar
