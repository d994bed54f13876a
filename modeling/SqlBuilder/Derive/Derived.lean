import SqlBuilder.Enumeration
import SqlBuilder.Derive.Definition
import SqlBuilder.Sql.Query
import SqlBuilder.Table
import SqlBuilder.Text.SnakeCase
/-!
What is derived from definitions: tables, databases, enumerations and the shorthands of operators.
-/
namespace SqlBuilder.Derive

open Text

-- The identifiers of fields that a table's module needs for itself.
def reservedIdents : List String := ["table", "row", "Values"]

-- The part of a field in writing, given whether its type is optional.
def FieldDefinition.writing (f : FieldDefinition τ) (isOptional : τ → Bool) : Writing :=
  if .generatedAlways ∈ f.flags ∨ .excluded ∈ f.flags then .never
  else if .generated ∈ f.flags ∨ isOptional f.type then .optional
  else .required

def FieldDefinition.field (f : FieldDefinition τ) (isOptional : τ → Bool) : Except Problem (Field τ) :=
  let name := plainIdent f.ident
  if name ∈ reservedIdents then .error (.reserved name)
  else if f.flags.length > 1 then .error .exclusiveFlags
  else .ok ⟨f.ident, f.name.getD name, f.type, f.writing isOptional⟩

-- ASCII letters, digits and underscores, and no digit in front.
def isModuleName (name : String) : Bool :=
  match name.toList with
  | [] => false
  | c :: cs => (c.isAlpha || c = '_') && (c :: cs).all fun c => c.isAlphanum || c = '_'

-- The name of a table: as given, or the definition's identifier in snake case.
def Definition.tableName (definition : Definition τ) (name : Option String) : String :=
  name.getD (snakeCase definition.ident)

-- The elements that stood in a list before, once for each time that they stand in it again. `seen` is
-- what stood in front of the list.
def repeated [DecidableEq α] (seen : List α) : List α → List α
  | [] => []
  | a :: as => if a ∈ seen then a :: repeated seen as else repeated (a :: seen) as

-- A shape without named fields is the first thing refused, then flags given twice, and then one problem
-- at a time.
def Definition.table (definition : Definition τ) (isOptional : τ → Bool) (name : Option String) :
    Except (List Problem) (Table τ) := do
  match definition.body with
  | .variants _ => throw [.shape "enum" (some "struct with named fields")]
  | .unnamed shape => throw [.shape shape.description (some Shape.named.description)]
  | .union => throw [.shape "union" none]
  | .fields items =>
    let again := items.flatMap fun f => repeated [] f.flags
    if !again.isEmpty then throw (again.map fun flag => .repeatedMark flag.name)
    if definition.isGeneric then throw [.generic "Table"]
    if items.isEmpty then throw [.noColumns]
    let fields ← (items.mapM (FieldDefinition.field · isOptional)).mapError ([·])
    let name := definition.tableName name
    if isModuleName name then return ⟨name, fields⟩ else throw [.moduleName name]

-- The modules of a database's tables, each with the type of its rows.
def Definition.schema (definition : Definition τ) : Except Problem (List (String × τ)) := do
  if definition.isGeneric then throw (.generic "Schema")
  match definition.body with
  | .fields items => return items.map fun f => (plainIdent f.ident, f.type)
  | .unnamed _ => throw .notNamedFields
  | _ => throw .notStructure

-- The variants of a definition, none of which may hold anything. Every one that does is a problem.
def Definition.plainVariants (definition : Definition τ) : Except (List Problem) (List VariantDefinition) :=
  match definition.body with
  | .variants vs =>
    match vs.filterMap holding? with
    | [] => .ok vs
    | problems => .error problems
  | .union => .error [.shape "union" none]
  | _ => .error [.shape "struct" (some "enum with no fields")]
where
  holding? (v : VariantDefinition) : Option Problem :=
    if v.shape = .noFields then none
    else some (.shape v.shape.description (some Shape.noFields.description))

def VariantDefinition.text (v : VariantDefinition) : String := v.rename.getD (snakeCase v.ident)

def Definition.enumeration (definition : Definition τ) : Except (List Problem) Enumeration := do
  let vs ← definition.plainVariants
  return ⟨definition.ident, vs.map fun v => (v.ident, v.text)⟩

-- The names of the shorthands for operators, two for each: the condition joined by `and`, then by `or`.
def shorthands (vs : List VariantDefinition) : List (String × Sql.Conjunction) :=
  vs.flatMap fun v =>
    let name := snakeCase v.ident
    [("where_" ++ name, .and), ("or_where_" ++ name, .or)]

-- The trait of the shorthands for operators.
structure Operators where
  filter : String
  methods : List (String × Sql.Conjunction)

-- The trait has to be named. That it is not comes behind all that is wrong with the variants.
def Operators.ofVariants (filter? : Option String) (variants : Except (List Problem) (List VariantDefinition)) :
    Except (List Problem) Operators :=
  match variants, filter? with
  | .ok vs, some filter => .ok ⟨filter, shorthands vs⟩
  | .ok _, none => .error [.missingFilter]
  | .error problems, some _ => .error problems
  | .error problems, none => .error (problems ++ [.missingFilter])

-- Operators with two sides, of which some may be skipped.
def Definition.binaryOperators (definition : Definition τ) (filter? : Option String) :
    Except (List Problem) Operators :=
  Operators.ofVariants filter? do
    let vs ← definition.plainVariants
    let again := vs.flatMap fun v => List.replicate (v.skips - 1) (Problem.repeatedMark "skip")
    if again.isEmpty then return vs.filter (·.skips = 0) else throw again

def Definition.unaryOperators (definition : Definition τ) (filter? : Option String) :
    Except (List Problem) Operators :=
  Operators.ofVariants filter? definition.plainVariants

end SqlBuilder.Derive
