/-!
Natural numbers in decimal digits.
-/
namespace SqlBuilder.Text

-- The character of a digit, `0` to `9`.
def digitChar (n : Nat) : Char := Char.ofNat ('0'.toNat + n % 10)

-- The digits of a number without leading zeros, zero being the single digit `0`.
def digits (n : Nat) : List Char :=
  if n < 10 then [digitChar n] else digits (n / 10) ++ [digitChar n]

def decimal (n : Nat) : String := String.ofList (digits n)

-- An integer in decimal, negative numbers led by a minus sign.
def signedDecimal : Int → String
  | .ofNat n => decimal n
  | .negSucc n => "-" ++ decimal (n + 1)

-- The digits of a number, filled up with zeros on the left to at least `width` digits.
def padded (width n : Nat) : List Char :=
  let ds := digits n
  List.replicate (width - ds.length) '0' ++ ds

-- The value of a digit, or none for any other character.
def digitValue? (c : Char) : Option Nat :=
  if '0' ≤ c ∧ c ≤ '9' then some (c.toNat - '0'.toNat) else none

def isDigit (c : Char) : Bool := (digitValue? c).isSome

-- Digits read on after a number already read.
def readDigits? (read : Nat) : List Char → Option Nat
  | [] => some read
  | c :: cs =>
    match digitValue? c with
    | some d => readDigits? (10 * read + d) cs
    | none => none

-- A non-empty text of digits as a number.
def natural? : List Char → Option Nat
  | [] => none
  | cs => readDigits? 0 cs

end SqlBuilder.Text
