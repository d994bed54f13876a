import SqlBuilder.Error
/-!
Enumerations stored as texts.
-/
namespace SqlBuilder

-- A named type whose values are its variants, each stored as its text.
structure Enumeration where
  name : String
  -- identifier and text of each variant in the order of declaration
  variants : List (String × String)

namespace Enumeration

abbrev Variant (e : Enumeration) : Type := Fin e.variants.length

def text (e : Enumeration) (v : e.Variant) : String := e.variants[v].2

-- The variant that has an identifier.
def ofIdent? (e : Enumeration) (ident : String) : Option e.Variant :=
  e.variants.findFinIdx? (·.1 = ident)

-- The first variant that has a text.
def ofText? (e : Enumeration) (s : String) : Option e.Variant :=
  e.variants.findFinIdx? (·.2 = s)

def encode (e : Enumeration) (v : e.Variant) : Value := .string (e.text v)

def decode (e : Enumeration) (v : Value) : Except Mismatch e.Variant :=
  match v with
  | .string s =>
    match e.ofText? s with
    | some variant => .ok variant
    | none => .error (.ofValue e.name v)
  | _ => .error (.ofValue e.name v)

end Enumeration

end SqlBuilder
