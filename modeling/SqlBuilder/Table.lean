import SqlBuilder.Row
/-!
Described tables: their fields, and which of them an insert or update sets.
-/
namespace SqlBuilder

-- How a field takes part in inserts and updates.
inductive Writing where
  | required
  | optional
  -- the database alone writes it
  | never
  deriving DecidableEq

-- A field with a type in `τ`.
structure Field (τ : Type) where
  ident : String
  column : String
  type : τ
  writing : Writing

structure Table (τ : Type) where
  name : String
  fields : List (Field τ)

namespace Table

variable {τ : Type}

-- The columns in the order of the fields.
def columns (t : Table τ) : List String := t.fields.map Field.column

def field? (t : Table τ) (ident : String) : Option (Field τ) := t.fields.find? (·.ident = ident)

-- The fields that take part in writing in one way.
def writtenAs (t : Table τ) (w : Writing) : List (Field τ) := t.fields.filter (·.writing = w)

-- The fields that an insert or update may set.
def updatable (t : Table τ) : List (Field τ) := t.fields.filter (·.writing ≠ .never)

-- Rows of the table as records, read by the names of the columns.
def layout (t : Table FieldType) : Layout := .named (t.fields.map fun f => (f.column, f.type))

end Table

end SqlBuilder
