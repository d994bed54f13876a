import SqlBuilder.Text.Reader
/-!
Days of the Gregorian calendar, extended to all years in range.
-/
namespace SqlBuilder.Calendar

open Text

def isLeap (year : Int) : Bool := year % 4 = 0 && (year % 100 ≠ 0 || year % 400 = 0)

def daysInMonth (year : Int) (month : Nat) : Nat :=
  if month = 2 then
    if isLeap year then 29 else 28
  else if month = 4 || month = 6 || month = 9 || month = 11 then 30
  else 31

structure Date where
  year : Int
  month : Nat
  day : Nat
  year_inRange : -262143 ≤ year ∧ year ≤ 262142
  month_inRange : 1 ≤ month ∧ month ≤ 12
  day_inRange : 1 ≤ day ∧ day ≤ daysInMonth year month
  deriving DecidableEq

namespace Date

def of? (year : Int) (month day : Nat) : Option Date :=
  if hy : -262143 ≤ year ∧ year ≤ 262142 then
    if hm : 1 ≤ month ∧ month ≤ 12 then
      if hd : 1 ≤ day ∧ day ≤ daysInMonth year month then some ⟨year, month, day, hy, hm, hd⟩ else none
    else none
  else none

-- The day after, none after the last day of the range.
def next? (d : Date) : Option Date :=
  if d.day < daysInMonth d.year d.month then of? d.year d.month (d.day + 1)
  else if d.month < 12 then of? d.year (d.month + 1) 1
  else of? (d.year + 1) 1 1

-- The day before, none before the first day of the range.
def previous? (d : Date) : Option Date :=
  if 1 < d.day then of? d.year d.month (d.day - 1)
  else if 1 < d.month then of? d.year (d.month - 1) (daysInMonth d.year (d.month - 1))
  else of? (d.year - 1) 12 31

def isLastOfMonth (d : Date) : Bool := d.day = daysInMonth d.year d.month

-- Years from 0 to 9999 have four digits, all others a sign and at least four.
def yearText (year : Int) : List Char :=
  if year < 0 then '-' :: padded 4 year.natAbs
  else if year ≤ 9999 then padded 4 year.natAbs
  else '+' :: padded 4 year.natAbs

def chars (d : Date) : List Char :=
  yearText d.year ++ '-' :: (padded 2 d.month ++ '-' :: padded 2 d.day)

def text (d : Date) : String := String.ofList d.chars

-- A year with a sign has any number of digits, one without has at most four.
def readYear : Reader Int := do
  Reader.blanks
  match ← get with
  | '-' :: cs => do
    set cs
    return -(Int.ofNat (← unbounded))
  | '+' :: cs => do
    set cs
    return Int.ofNat (← unbounded)
  | _ => return Int.ofNat (← Reader.number 4)
where
  unbounded : Reader Nat := do
    let ds ← Reader.allDigits
    (natural? ds : Option Nat)

-- A month, a day, an hour, a minute or a second, with white space allowed in front.
def readPair : Reader Nat := do
  Reader.blanks
  Reader.number 2

-- White space may stand in front of every number, and in front of the hyphens unless `tight`.
def reader (tight : Bool) : Reader Date := do
  let year ← readYear
  unless tight do
    Reader.blanks
  Reader.char '-'
  let month ← readPair
  unless tight do
    Reader.blanks
  Reader.char '-'
  let day ← readPair
  (of? year month day : Option Date)

def ofText? (s : String) : Option Date :=
  Reader.read? (do
    let d ← reader false
    Reader.blanks
    return d) s

end Date

end SqlBuilder.Calendar
