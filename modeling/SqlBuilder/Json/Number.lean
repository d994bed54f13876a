import SqlBuilder.Ieee.Shortest
import SqlBuilder.Json.Basic
import SqlBuilder.Text.Reader
/-!
JSON numbers. A number that is no integer of 64 bits is read in two steps, each rounded: the first
digits, as many as fit 64 bits, become a double, which is then multiplied or divided by a power of
ten.
-/
namespace SqlBuilder.Json.Number

open Text Ieee

def maxSignificand : Nat := UInt64.size - 1

-- The digits read so far as far as they fit 64 bits, the power of ten they are to be multiplied by,
-- and whether a digit has been left out.
structure Scan where
  significand : Nat
  exponent : Int
  full : Bool

-- Once an integer digit does not fit, it and all further ones only count as places.
def Scan.integerDigit (s : Scan) (digit : Nat) : Scan :=
  if s.full || maxSignificand < 10 * s.significand + digit then
    { s with exponent := s.exponent + 1, full := true }
  else { s with significand := 10 * s.significand + digit }

-- Once a digit behind the point does not fit, it and all further ones are dropped.
def Scan.fractionDigit (s : Scan) (digit : Nat) : Scan :=
  if s.full || maxSignificand < 10 * s.significand + digit then { s with full := true }
  else { s with significand := 10 * s.significand + digit, exponent := s.exponent - 1 }

def scanInteger (ds : List Char) : Scan :=
  (ds.filterMap digitValue?).foldl Scan.integerDigit ⟨0, 0, false⟩

def scanFraction (s : Scan) (ds : List Char) : Scan :=
  (ds.filterMap digitValue?).foldl Scan.fractionDigit { s with full := false }

-- The largest power of ten below infinity.
def maxPower : Nat := 308

def power (k : Nat) : Nat := double.nearestMagnitude (Nat.pow 10 k) 1

-- Divides by powers of ten until all of them are used or nothing is left.
def divide (magnitude exponent : Nat) : Nat :=
  if exponent ≤ maxPower then double.quotient magnitude (power exponent)
  else if magnitude = 0 then 0
  else divide (double.quotient magnitude (power maxPower)) (exponent - maxPower)
termination_by exponent
decreasing_by simp [maxPower] at *; omega

-- The double of a significand and a power of ten, none if it is beyond the finite numbers.
def scale? (significand : Nat) (exponent : Int) : Option Nat :=
  let start := double.nearestMagnitude significand 1
  match exponent with
  | .negSucc k => some (divide start (k + 1))
  | .ofNat k =>
    if maxPower < k then if significand = 0 then some 0 else none
    else
      let product := double.product start (power k)
      if product = double.infinity then none else some product

def ofMagnitude (negative : Bool) (magnitude : Nat) : Number :=
  .real ⟨UInt64.ofNat (double.pattern negative magnitude)⟩

-- The largest exponent that is read as a number. A larger one leaves zero, or the number is refused.
def maxExponent : Int := Int32.maxValue.toInt

def ofScan? (negative : Bool) (s : Scan) : Option Number := do
  return ofMagnitude negative (← scale? s.significand s.exponent)

-- The sign and the digits of an exponent.
def ofExponent? (negative : Bool) (s : Scan) (down : Bool) (ds : List Char) : Option Number := do
  let e ← natural? ds
  if maxExponent < e then
    if down || s.significand = 0 then some (ofMagnitude negative 0) else none
  else ofScan? negative { s with exponent := if down then s.exponent - e else s.exponent + e }

-- A number without fraction and exponent. Minus zero is no integer, and neither is a number outside
-- of 64 bits.
def ofInteger? (negative : Bool) (s : Scan) : Option Number :=
  if s.full then ofScan? negative s
  else if negative then
    if 0 < s.significand ∧ Int64.minValue.toInt ≤ -s.significand then some (.integer (-s.significand))
    else ofScan? true s
  else some (.integer s.significand)

-- The digits in front of point and exponent: a single zero, or no zero in front.
def integerDigits : Reader (List Char)
  | '0' :: cs => some (['0'], cs)
  | cs => Reader.allDigits cs

def reader : Reader Number := do
  let negative ← minus
  let s := scanInteger (← integerDigits)
  match ← get with
  | '.' :: cs => do
    set cs
    let s := scanFraction s (← Reader.allDigits)
    match ← get with
    | 'e' :: cs => exponent negative s cs
    | 'E' :: cs => exponent negative s cs
    | _ => (ofScan? negative s : Option Number)
  | 'e' :: cs => exponent negative s cs
  | 'E' :: cs => exponent negative s cs
  | _ => (ofInteger? negative s : Option Number)
where
  minus : Reader Bool
    | '-' :: cs => some (true, cs)
    | cs => some (false, cs)
  exponent (negative : Bool) (s : Scan) (cs : List Char) : Reader Number := do
    let (down, cs) := match cs with
      | '+' :: cs => (false, cs)
      | '-' :: cs => (true, cs)
      | cs => (false, cs)
    set cs
    let ds ← Reader.allDigits
    (ofExponent? negative s down ds : Option Number)

-- How a finite double is written: positional with at most sixteen digits in front of the point, or at
-- most four zeros between the point and the first other digit, and with a digit on both sides; else
-- with a power of ten, which has its sign in either direction.
def realChars (negative : Bool) (d : Decimal) : List Char :=
  let ds := digits d.significand
  let point : Int := ds.length + d.exponent
  (if negative then ['-'] else []) ++
    if 0 ≤ d.exponent ∧ point ≤ 16 then
      ds ++ List.replicate d.exponent.toNat '0' ++ ['.', '0']
    else if 0 < point ∧ point ≤ 16 then
      ds.take point.toNat ++ '.' :: ds.drop point.toNat
    else if -5 < point ∧ point ≤ 0 then
      '0' :: '.' :: (List.replicate point.natAbs '0' ++ ds)
    else
      let mantissa := match ds with
        | [d] => [d]
        | d :: rest => d :: '.' :: rest
        | [] => []
      let sign := if point ≤ 0 then '-' else '+'
      mantissa ++ 'e' :: sign :: digits (point - 1).natAbs

def text : Number → String
  | .integer n => signedDecimal n
  | .real x =>
    match double.decode x.bits.toNat with
    | .finite negative 0 _ => if negative then "-0.0" else "0.0"
    | .finite negative mantissa power => String.ofList (realChars negative (shortest double mantissa power))
    | _ => "null"

end SqlBuilder.Json.Number
