import SqlBuilder.Dialect
import SqlBuilder.Text.Pieces
/-!
Identifiers in their quotes. A part that is exactly `*` stands bare, any other part is quoted with
its quotes doubled, and the name of a table is quoted piece by piece between its dots.
-/
namespace SqlBuilder.Sql

-- The text with every quote written twice.
def doubled (quote : Char) : List Char → List Char
  | [] => []
  | c :: cs => if c = quote then quote :: quote :: doubled quote cs else c :: doubled quote cs

def quoted (quote : Char) (part : List Char) : List Char :=
  quote :: (doubled quote part ++ [quote])

-- The spelling of one part of a name.
def ident (d : Dialect) (part : String) : String :=
  if part = "*" then "*" else String.ofList (quoted d.quote part.toList)

-- The spelling of a table's name, each piece between dots an identifier of its own.
def tableName (d : Dialect) (name : String) : String :=
  ".".intercalate ((Text.pieces (· = '.') name.toList).map fun p => ident d (String.ofList p))

-- The order of names is that of their code points.
def compareNames (a b : String) : Ordering := compare a b

-- An aliased table or column as it is shown when inspected.
def describeAliased (name given : String) : String := name ++ " as " ++ given

end SqlBuilder.Sql
