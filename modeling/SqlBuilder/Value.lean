import SqlBuilder.Ieee.Format
/-!
The values that are bound to statements and found in result rows.
-/
namespace SqlBuilder

-- A single precision number, told apart by its bits.
structure Single where
  bits : UInt32
  deriving DecidableEq

-- A double precision number, told apart by its bits.
structure Double where
  bits : UInt64
  deriving DecidableEq

namespace Single

def toDouble (x : Single) : Double :=
  ⟨UInt64.ofNat (Ieee.single.convert Ieee.double x.bits.toNat)⟩

def numEq (x y : Single) : Bool := Ieee.single.numEq x.bits.toNat y.bits.toNat

end Single

namespace Double

def toSingle (x : Double) : Single :=
  ⟨UInt32.ofNat (Ieee.double.convert Ieee.single x.bits.toNat)⟩

def ofInt (n : Int) : Double := ⟨UInt64.ofNat (Ieee.double.ofInt n)⟩

def numEq (x y : Double) : Bool := Ieee.double.numEq x.bits.toNat y.bits.toNat

end Double

inductive Value where
  | null
  | bool (b : Bool)
  | i16 (n : Int16)
  | i32 (n : Int32)
  | i64 (n : Int64)
  | f32 (x : Single)
  | f64 (x : Double)
  | string (s : String)
  | bytes (b : List UInt8)
  deriving DecidableEq

namespace Value

-- The name of the variant, as decoding errors give it.
def kind : Value → String
  | null => "null"
  | bool _ => "bool"
  | i16 _ => "i16"
  | i32 _ => "i32"
  | i64 _ => "i64"
  | f32 _ => "f32"
  | f64 _ => "f64"
  | string _ => "string"
  | bytes _ => "bytes"

def isNull : Value → Bool
  | null => true
  | _ => false

-- The number held by one of the three integer variants.
def int? : Value → Option Int
  | i16 n => some n.toInt
  | i32 n => some n.toInt
  | i64 n => some n.toInt
  | _ => none

-- Unsigned integers are held by the smallest variant that has all of them.
def ofUInt8 (n : UInt8) : Value := i16 (.ofNat n.toNat)

def ofUInt16 (n : UInt16) : Value := i32 (.ofNat n.toNat)

def ofUInt32 (n : UInt32) : Value := i64 (.ofNat n.toNat)

-- Sameness of two values as a row compares them: floats by number, all else exactly.
def same : Value → Value → Bool
  | f32 x, f32 y => x.numEq y
  | f64 x, f64 y => x.numEq y
  | v, w => v = w

end Value

end SqlBuilder
