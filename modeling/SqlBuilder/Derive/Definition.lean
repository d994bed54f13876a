import SqlBuilder.Derive.Tree
/-!
Type definitions as they are given for derivation, and what is wrong with those that are refused.
-/
namespace SqlBuilder.Derive

-- What a variant or a definition holds.
inductive Shape where
  | noFields
  | oneUnnamed
  | unnamed
  | named
  deriving DecidableEq

def Shape.description : Shape → String
  | noFields => "no fields"
  | oneUnnamed => "one unnamed field"
  | unnamed => "unnamed fields"
  | named => "named fields"

-- The shape of what is written behind a variant's name.
def Shape.ofTrees : List Tree → Shape
  | .group .round ts :: _ => if (Tree.parts [] ts).length = 1 then oneUnnamed else unnamed
  | .group .curly _ :: _ => named
  | _ => noFields

-- Whether what is written behind a definition's name begins with parameters.
def declaresParameters : List Tree → Bool
  | .group .angle ts :: _ => !ts.isEmpty
  | _ => false

-- The marks that say that the database fills a field.
inductive Flag where
  | generated
  | generatedAlways
  | excluded
  deriving DecidableEq

def Flag.name : Flag → String
  | generated => "generated"
  | generatedAlways => "generated_always"
  | excluded => "excluded"

structure FieldDefinition (τ : Type) where
  ident : String
  type : τ
  flags : List Flag := []
  -- the column's name where it differs from the identifier
  name : Option String := none

structure VariantDefinition where
  ident : String
  shape : Shape := .noFields
  -- the text where it differs from the identifier in snake case
  rename : Option String := none
  -- how many times it is marked to be skipped
  skips : Nat := 0

inductive Body (τ : Type) where
  | fields (fields : List (FieldDefinition τ))
  -- a structure without named fields
  | unnamed (shape : Shape)
  | union
  | variants (variants : List VariantDefinition)

-- A definition with an identifier, whether it has parameters, and its body.
structure Definition (τ : Type) where
  ident : String
  isGeneric : Bool
  body : Body τ

inductive Problem where
  -- a shape that is refused, and what is taken instead where it is a structure or an enumeration
  | shape (found : String) (expected : Option String)
  | generic (derivation : String)
  | noColumns
  | repeatedMark (name : String)
  | reserved (ident : String)
  | exclusiveFlags
  | moduleName (name : String)
  | notNamedFields
  | notStructure
  | missingFilter
  deriving DecidableEq

def Problem.message : Problem → String
  | shape found (some expected) => "Unsupported shape `" ++ found ++ "`. Expected " ++ expected ++ "."
  | shape found none => "Unsupported shape `" ++ found ++ "`"
  | generic derivation => "#[derive(" ++ derivation ++ ")] does not support generic structs"
  | noColumns => "a table needs at least one column"
  | repeatedMark name => "Duplicate field `" ++ name ++ "`"
  | reserved ident =>
    "`" ++ ident ++ "` is reserved, rename the field and use #[column(name = \"" ++ ident ++ "\")]"
  | exclusiveFlags => "`generated`, `generated_always` and `excluded` are exclusive"
  | moduleName name => "table name `" ++ name ++ "` is not a valid module name"
  | notNamedFields => "expected a struct with named fields"
  | notStructure => "#[derive(Schema)] only supports structs"
  | missingFilter => "Missing field `filter`"

-- The identifier without the mark that lets a keyword stand as one.
def plainIdent (ident : String) : String :=
  match ident.toList with
  | 'r' :: '#' :: cs => String.ofList cs
  | _ => ident

end SqlBuilder.Derive
