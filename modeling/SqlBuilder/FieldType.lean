import SqlBuilder.Calendar.Instant
import SqlBuilder.Enumeration
import SqlBuilder.Json.Parser
import SqlBuilder.Json.Printer
import SqlBuilder.Uuid
/-!
The types of fields: what a field of each type holds, how it is read from a value and how it is
written as one.
-/
namespace SqlBuilder

inductive FieldType where
  -- any value as it is
  | value
  | bool
  | i16 | i32 | i64
  | f32 | f64
  | string
  | bytes
  | enumeration (e : Enumeration)
  | uuid
  | date
  | dateTime
  -- points in time, kept in universal time
  | instant
  -- points in time with their offset
  | zoned
  | json
  | optional (t : FieldType)

namespace FieldType

-- What a field of the type holds.
def Carrier : FieldType → Type
  | value => Value
  | bool => Bool
  | i16 => Int16
  | i32 => Int32
  | i64 => Int64
  | f32 => Single
  | f64 => Double
  | string => String
  | bytes => List UInt8
  | enumeration e => e.Variant
  | uuid => Uuid
  | date => Calendar.Date
  | dateTime => Calendar.DateTime
  | instant => Calendar.Instant
  | zoned => Calendar.Zoned
  | json => Json
  | optional t => Option t.Carrier

def encode : (t : FieldType) → t.Carrier → Value
  | value, v => v
  | bool, b => .bool b
  | i16, n => .i16 n
  | i32, n => .i32 n
  | i64, n => .i64 n
  | f32, x => .f32 x
  | f64, x => .f64 x
  | string, s => .string s
  | bytes, b => .bytes b
  | enumeration e, v => e.encode v
  | uuid, u => .string (Uuid.text u)
  | date, d => .string (Calendar.Date.text d)
  | dateTime, t => .string (Calendar.DateTime.text t)
  | instant, t => .string (Calendar.Instant.text t)
  | zoned, z => .string (Calendar.Zoned.text z)
  | json, j => .string (Json.text j)
  | optional t, some x => t.encode x
  | optional _, none => .null

-- The value read as asked for, or a mismatch between it and the name of what was expected.
def expect (name : String) (v : Value) : Option α → Except Mismatch α
  | some x => .ok x
  | none => .error (.ofValue name v)

-- Some databases store truth values as the numbers 0 and 1.
def bool? (v : Value) : Option Bool :=
  match v with
  | .bool b => some b
  | _ => if v.int? = some 0 then some false else if v.int? = some 1 then some true else none

-- The number of an integer value if it lies between two bounds.
def int? (low high : Int) (v : Value) : Option Int := do
  let n ← v.int?
  if low ≤ n ∧ n ≤ high then some n else none

def f32? : Value → Option Single
  | .f32 x => some x
  | .f64 x => some x.toSingle
  | _ => none

def f64? (v : Value) : Option Double :=
  match v with
  | .f64 x => some x
  | .f32 x => some x.toDouble
  | _ => v.int?.map Double.ofInt

def string? : Value → Option String
  | .string s => some s
  | _ => none

-- The UTF-8 encoding of a text.
def utf8 (s : String) : List UInt8 := s.toUTF8.toList

def bytes? : Value → Option (List UInt8)
  | .bytes b => some b
  | .string s => some (utf8 s)
  | _ => none

def uuid? : Value → Option Uuid
  | .string s => Uuid.ofText? s
  | .bytes b => Uuid.ofBytes? b
  | _ => none

-- A document is read from text or from the UTF-8 encoding of text.
def json? : Value → Option Json
  | .string s => Json.ofText? s
  | .bytes b => (String.fromUTF8? ⟨b.toArray⟩).bind Json.ofText?
  | _ => none

def decode : (t : FieldType) → Value → Except Mismatch t.Carrier
  | value, v => .ok v
  | bool, v => expect "bool" v (bool? v)
  | i16, v => expect "i16" v ((int? Int16.minValue.toInt Int16.maxValue.toInt v).map Int16.ofInt)
  | i32, v => expect "i32" v ((int? Int32.minValue.toInt Int32.maxValue.toInt v).map Int32.ofInt)
  | i64, v => expect "i64" v ((int? Int64.minValue.toInt Int64.maxValue.toInt v).map Int64.ofInt)
  | f32, v => expect "f32" v (f32? v)
  | f64, v => expect "f64" v (f64? v)
  | string, v => expect "string" v (string? v)
  | bytes, v => expect "bytes" v (bytes? v)
  | enumeration e, v => e.decode v
  | uuid, v => expect "uuid" v (uuid? v)
  | date, v => expect "date" v ((string? v).bind Calendar.Date.ofText?)
  | dateTime, v => expect "datetime" v ((string? v).bind Calendar.DateTime.ofText?)
  | instant, v => expect "timestamp" v ((string? v).bind Calendar.Instant.ofText?)
  | zoned, v => expect "timestamp" v ((string? v).bind Calendar.Zoned.ofText?)
  | json, v => expect "json" v (json? v)
  | optional t, v => if v.isNull then .ok none else (t.decode v).map some

-- A value read as the type and written again.
def normalize (t : FieldType) (v : Value) : Except Mismatch Value := (t.decode v).map t.encode

end FieldType

end SqlBuilder
