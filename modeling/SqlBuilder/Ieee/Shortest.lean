import SqlBuilder.Ieee.Format
import SqlBuilder.Text.Decimal
/-!
The shortest decimal number that reads back as a given binary one.
-/
namespace SqlBuilder.Ieee

-- The number `significand · 10 ^ exponent`.
structure Decimal where
  significand : Nat
  exponent : Int
  deriving DecidableEq

-- A fraction of natural numbers.
structure Ratio where
  num : Nat
  den : Nat

namespace Ratio

def ofPower (base : Nat) : Int → Ratio
  | .ofNat k => ⟨Nat.pow base k, 1⟩
  | .negSucc k => ⟨1, Nat.pow base (k + 1)⟩

def mul (a b : Ratio) : Ratio := ⟨a.num * b.num, a.den * b.den⟩

def le (a b : Ratio) : Bool := a.num * b.den ≤ b.num * a.den

def lt (a b : Ratio) : Bool := a.num * b.den < b.num * a.den

end Ratio

-- The positive numbers that round to one binary number: the number itself, the two ends of the
-- interval around it, and whether the ends belong to it.
structure Interval where
  value : Ratio
  low : Ratio
  high : Ratio
  closed : Bool

namespace Interval

-- The interval of `mantissa · 2 ^ power`. Below a power of two the next smaller number is half as
-- far away, except at the least power. The ends round to the even mantissa.
def ofFinite (f : Format) (mantissa : Nat) (power : Int) : Interval :=
  let unit := Ratio.ofPower 2 (power - 2)
  let near := mantissa = f.fractions ∧ power ≠ f.leastPower
  { value := unit.mul ⟨4 * mantissa, 1⟩
    low := unit.mul ⟨4 * mantissa - (if near then 1 else 2), 1⟩
    high := unit.mul ⟨4 * mantissa + 2, 1⟩
    closed := mantissa % 2 = 0 }

def contains (i : Interval) (x : Ratio) : Bool :=
  if i.closed then i.low.le x && x.le i.high else i.low.lt x && x.lt i.high

-- Of the multiples of `10 ^ exponent` next to the value, the nearest one inside the interval. Of two
-- that are as near the even one is taken.
def onGrid? (i : Interval) (exponent : Int) : Option Decimal :=
  let unit := Ratio.ofPower 10 exponent
  let below := i.value.num * unit.den / (i.value.den * unit.num)
  let above := below + 1
  let low := unit.mul ⟨below, 1⟩
  let high := unit.mul ⟨above, 1⟩
  -- twice the value against the sum of its neighbours
  let twice := i.value.mul ⟨2, 1⟩
  let sum := unit.mul ⟨below + above, 1⟩
  let preferLow := twice.lt sum || (twice.le sum && below % 2 = 0)
  match i.contains low && 0 < below, i.contains high with
  | true, true => some ⟨if preferLow then below else above, exponent⟩
  | true, false => some ⟨below, exponent⟩
  | false, true => some ⟨above, exponent⟩
  | false, false => none

-- The exponent of the first significant digit of a positive ratio.
def leadingExponent (x : Ratio) : Int :=
  if x.den ≤ x.num then ((Text.digits (x.num / x.den)).length : Int) - 1
  else
    -- a reciprocal above `10 ^ k` and not above `10 ^ (k + 1)` begins in place `-(k + 1)`
    -((Text.digits ((x.den - 1) / x.num)).length : Int)

-- The first grid from the coarsest on that has a number inside the interval.
def search (i : Interval) : List Int → Decimal
  | [] => ⟨0, 0⟩
  | e :: es => (i.onGrid? e).getD (search i es)

end Interval

-- A significand without zeros at its end.
def Decimal.strip (d : Decimal) : Decimal :=
  if 0 < d.significand ∧ d.significand % 10 = 0 then
    strip ⟨d.significand / 10, d.exponent + 1⟩
  else d
termination_by d.significand
decreasing_by omega

-- The shortest decimal for a positive finite number. Seventeen digits always suffice for a double.
def shortest (f : Format) (mantissa : Nat) (power : Int) : Decimal :=
  let i := Interval.ofFinite f mantissa power
  let top := Interval.leadingExponent i.value
  (i.search ((List.range 18).map fun (k : Nat) => top + 1 - (k : Int))).strip

end SqlBuilder.Ieee
