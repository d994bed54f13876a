import SqlBuilder.FieldType
/-!
Result rows and the ways of reading them.
-/
namespace SqlBuilder

-- Named cells in the order of the selections. Names may repeat.
structure Row where
  cells : List (String × Value) := []

namespace Row

def size (r : Row) : Nat := r.cells.length

def isEmpty (r : Row) : Bool := r.cells.isEmpty

-- Adds a cell behind all others.
def push (r : Row) (name : String) (v : Value) : Row := ⟨r.cells ++ [(name, v)]⟩

-- The value of the first cell with a name.
def get? (r : Row) (name : String) : Option Value := (r.cells.find? (·.1 = name)).map (·.2)

-- The cells without the first one with a name.
def remove (r : Row) (name : String) : Row := ⟨r.cells.eraseP (·.1 = name)⟩

def decodeError (column : String) (m : Mismatch) : Error := .decode column m.message

-- Reads the first cell with a name and removes it, also when it cannot be read.
def take (t : FieldType) (name : String) (r : Row) : Except Error t.Carrier × Row :=
  match r.get? name with
  | some v => ((t.decode v).mapError (decodeError name), r.remove name)
  | none => (.error (.decode name "column not found in row"), r)

-- Rows are the same if their cells agree in names and values, one by one.
def same (r s : Row) : Bool :=
  r.cells.length = s.cells.length &&
    (r.cells.zip s.cells).all fun (a, b) => a.1 = b.1 && a.2.same b.2

end Row

-- What a row is read as.
inductive Layout where
  -- the row itself
  | row
  -- fields found by the names of their columns
  | named (fields : List (String × FieldType))
  -- fields found by their positions
  | positional (types : List FieldType)

namespace Layout

-- The fields of a record, each as its column with a type.
def Named : List (String × FieldType) → Type
  | [] => Unit
  | (_, t) :: fields => t.Carrier × Named fields

def Tuple : List FieldType → Type
  | [] => Unit
  | t :: ts => t.Carrier × Tuple ts

def Carrier : Layout → Type
  | row => Row
  | named fields => Named fields
  | positional types => Tuple types

-- Takes the fields from the row one after the other.
def readNamed : (fields : List (String × FieldType)) → Row → Except Error (Named fields)
  | [], _ => .ok ()
  | (name, t) :: fields, r =>
    match r.take t name with
    | (.error e, _) => .error e
    | (.ok x, rest) => (readNamed fields rest).map (x, ·)

-- Reads the cells in order. Cells beyond the last field are not looked at.
def readTuple : (types : List FieldType) → List (String × Value) → Except Error (Tuple types)
  | [], _ => .ok ()
  | _ :: _, [] => .error (.decode "?" "row has fewer columns than selections")
  | t :: ts, (name, v) :: cells =>
    match t.decode v with
    | .error m => .error (Row.decodeError name m)
    | .ok x => (readTuple ts cells).map (x, ·)

def read : (l : Layout) → Row → Except Error l.Carrier
  | row, r => .ok r
  | named fields, r => readNamed fields r
  | positional types, r => readTuple types r.cells

-- The fields of a record, each written as a value.
def encodeNamed : (fields : List (String × FieldType)) → Named fields → List Value
  | [], _ => []
  | (_, t) :: fields, (x, xs) => t.encode x :: encodeNamed fields xs

def encodeTuple : (types : List FieldType) → Tuple types → List Value
  | [], _ => []
  | t :: ts, (x, xs) => t.encode x :: encodeTuple ts xs

end Layout

end SqlBuilder
