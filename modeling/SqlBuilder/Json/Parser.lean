import SqlBuilder.Json.Token
/-!
Documents from tokens, read by a machine with a stack of the arrays and objects that are still open.
-/
namespace SqlBuilder.Json

open Text

-- An open array with its items, the last one first, or an open object with its members and the key
-- that was read last.
inductive Frame where
  | array (items : List Json)
  | object (members : List Member) (key : String)

-- What the next token has to be. Directly behind its opening an array or object may be closed.
inductive Expected where
  | value (orClose : Bool)
  | key (orClose : Bool)
  | colon
  | next
  | nothing (document : Json)

structure Machine where
  stack : List Frame
  expected : Expected

namespace Machine

def start : Machine := ⟨[], .value false⟩

-- Arrays and objects nest at most this deep.
def maxDepth : Nat := 127

-- Takes a value into the array or object it stands in.
def accept (v : Json) : List Frame → Machine
  | [] => ⟨[], .nothing v⟩
  | .array items :: stack => ⟨.array (v :: items) :: stack, .next⟩
  | .object members key :: stack => ⟨.object (insertMember key v members) key :: stack, .next⟩

def opened? (f : Frame) (e : Expected) (stack : List Frame) : Option Machine :=
  if stack.length < maxDepth then some ⟨f :: stack, e⟩ else none

def closeArray? : List Frame → Option Machine
  | .array items :: stack => some (accept (.array items.reverse) stack)
  | _ => none

def closeObject? : List Frame → Option Machine
  | .object members _ :: stack => some (accept (.object members) stack)
  | _ => none

def step? (m : Machine) (t : Token) : Option Machine :=
  match m.expected, t with
  | .value _, .null => some (accept .null m.stack)
  | .value _, .bool b => some (accept (.bool b) m.stack)
  | .value _, .number n => some (accept (.number n) m.stack)
  | .value _, .string s => some (accept (.string (String.ofList s)) m.stack)
  | .value _, .openArray => opened? (.array []) (.value true) m.stack
  | .value _, .openObject => opened? (.object [] "") (.key true) m.stack
  | .value true, .closeArray => closeArray? m.stack
  | .key _, .string s =>
    match m.stack with
    | .object members _ :: stack => some ⟨.object members (String.ofList s) :: stack, .colon⟩
    | _ => none
  | .key true, .closeObject => closeObject? m.stack
  | .colon, .colon => some ⟨m.stack, .value false⟩
  | .next, .closeArray => closeArray? m.stack
  | .next, .closeObject => closeObject? m.stack
  | .next, .comma =>
    match m.stack with
    | .array _ :: _ => some ⟨m.stack, .value false⟩
    | .object .. :: _ => some ⟨m.stack, .key false⟩
    | [] => none
  | _, _ => none

def document? (m : Machine) : Option Json :=
  match m.expected with
  | .nothing v => some v
  | _ => none

end Machine

def ofTokens? (ts : List Token) : Option Json := do
  (← ts.foldlM Machine.step? Machine.start).document?

def ofText? (s : String) : Option Json := (Token.ofText? s).bind ofTokens?

end SqlBuilder.Json
