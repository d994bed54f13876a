/-!
Binary floating point numbers as bit patterns: what a pattern stands for, and the pattern nearest
to a ratio of natural numbers (ties to the even pattern).
-/
namespace SqlBuilder.Ieee

-- The widths in bits of the two fields below the sign.
structure Format where
  fraction : Nat
  exponent : Nat

def single : Format := ⟨23, 8⟩
def double : Format := ⟨52, 11⟩

-- What a bit pattern stands for. A finite number is `mantissa · 2 ^ power`.
inductive Datum where
  | nan (negative : Bool) (payload : Nat)
  | infinite (negative : Bool)
  | finite (negative : Bool) (mantissa : Nat) (power : Int)

namespace Format

variable (f : Format)

-- How many fractions and how many exponents there are.
def fractions : Nat := Nat.pow 2 f.fraction
def exponents : Nat := Nat.pow 2 f.exponent

-- The pattern of the sign alone.
def signBit : Nat := f.exponents * f.fractions

-- The power of two of the smallest positive number.
def leastPower : Int := 2 - (f.exponents / 2 : Nat) - f.fraction

-- The pattern of positive infinity, above that of every finite number.
def infinity : Nat := (f.exponents - 1) * f.fractions

-- The pattern of a sign and the fields below it.
def pattern (negative : Bool) (magnitude : Nat) : Nat :=
  if negative then f.signBit + magnitude else magnitude

def decode (bits : Nat) : Datum :=
  let negative := bits / f.signBit % 2 = 1
  let field := bits / f.fractions % f.exponents
  let fraction := bits % f.fractions
  if field = f.exponents - 1 then
    if fraction = 0 then .infinite negative else .nan negative fraction
  else if field = 0 then
    .finite negative fraction f.leastPower
  else
    .finite negative (f.fractions + fraction) (f.leastPower + (field - 1 : Nat))

-- The quotient rounded to the nearest natural number, a half going to the even neighbour.
def roundQuotient (num den : Nat) : Nat :=
  let q := num / den
  let r := num % den
  if 2 * r < den then q
  else if 2 * r > den then q + 1
  else if q % 2 = 0 then q else q + 1

-- Numerator and denominator of `num / den · 2 ^ (-power)`.
def scaled (num den : Nat) (power : Int) : Nat × Nat :=
  match power with
  | .ofNat k => (num, den * Nat.pow 2 k)
  | .negSucc k => (num * Nat.pow 2 (k + 1), den)

-- The power of two of the last place of the numbers near `num / den`.
def lastPlace (num den : Nat) : Int :=
  -- the quotient of two numbers of `a` and `b` bits has `a - b` or `a - b + 1` bits
  let guess : Int := (Nat.log2 num : Int) - (Nat.log2 den : Int)
  let (n, d) := scaled num den guess
  let top := if n < d then guess - 1 else guess
  max (top - f.fraction) f.leastPower

-- The magnitude nearest to `num / den`, infinity when it is beyond all finite numbers. The fields
-- are laid out so that a mantissa that rounds up to the next power of two carries into the exponent.
def nearestMagnitude (num den : Nat) : Nat :=
  if num = 0 then 0 else
    let power := f.lastPlace num den
    let (n, d) := scaled num den power
    let mantissa := roundQuotient n d
    let magnitude := (power - f.leastPower).toNat * f.fractions + mantissa
    min magnitude f.infinity

-- The pattern nearest to `mantissa · 2 ^ power`.
def nearestDyadic (negative : Bool) (mantissa : Nat) (power : Int) : Nat :=
  match power with
  | .ofNat k => f.pattern negative (f.nearestMagnitude (mantissa * Nat.pow 2 k) 1)
  | .negSucc k => f.pattern negative (f.nearestMagnitude mantissa (Nat.pow 2 (k + 1)))

def ofInt (n : Int) : Nat := f.pattern (n < 0) (f.nearestMagnitude n.natAbs 1)

-- The pattern in format `g` nearest to a pattern of `f`. The upper bits of a NaN's payload are
-- kept and its quiet bit is set.
def convert (g : Format) (bits : Nat) : Nat :=
  match f.decode bits with
  | .infinite negative => g.pattern negative g.infinity
  | .finite negative mantissa power => g.nearestDyadic negative mantissa power
  | .nan negative payload =>
    let quiet := g.fractions / 2
    let kept := payload * g.fractions / f.fractions
    g.pattern negative (g.infinity + (quiet + kept % quiet))

-- The magnitude nearest to `num / den` where both are magnitudes of finite numbers.
def quotient (num den : Nat) : Nat :=
  match f.decode num, f.decode den with
  | .finite _ a p, .finite _ b q =>
    let (n, d) := scaled a b (q - p)
    f.nearestMagnitude n d
  | _, _ => f.infinity

-- The magnitude nearest to the product of two finite magnitudes.
def product (a b : Nat) : Nat :=
  match f.decode a, f.decode b with
  | .finite _ m p, .finite _ n q => f.nearestDyadic false (m * n) (p + q)
  | _, _ => f.infinity

-- Equality of numbers: a NaN equals nothing, the two zeros are equal.
def numEq (a b : Nat) : Bool :=
  match f.decode a, f.decode b with
  | .nan .., _ => false
  | _, .nan .. => false
  | .finite _ 0 _, .finite _ 0 _ => true
  | _, _ => a == b

end Format

end SqlBuilder.Ieee
