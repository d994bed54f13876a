import SqlBuilder.Value
/-!
JSON documents with sorted members.
-/
namespace SqlBuilder

-- Integers of 64 bits, signed or not, are kept exactly. All other numbers are doubles.
inductive Json.Number where
  | integer (n : Int)
  | real (x : Double)
  deriving DecidableEq

mutual

inductive Json where
  | null
  | bool (b : Bool)
  | number (n : Json.Number)
  | string (s : String)
  | array (items : List Json)
  | object (members : List Json.Member)

structure Json.Member where
  key : String
  value : Json

end

-- Puts a member in its place among members in the order of their keys. A member with the same key is
-- replaced.
def Json.insertMember (key : String) (value : Json) : List Json.Member → List Json.Member
  | [] => [⟨key, value⟩]
  | m :: ms =>
    if key = m.key then ⟨key, value⟩ :: ms
    else if key < m.key then ⟨key, value⟩ :: m :: ms
    else m :: insertMember key value ms

end SqlBuilder
