import SqlBuilder.Json.Number
import SqlBuilder.Text.Hex
/-!
Documents without white space.
-/
namespace SqlBuilder.Json

open Text

-- Quotes, backslashes and control characters are escaped, the latter by a letter where there is one.
def escapeChar (c : Char) : List Char :=
  if c = '"' then ['\\', '"']
  else if c = '\\' then ['\\', '\\']
  else if c = '\x08' then ['\\', 'b']
  else if c = '\t' then ['\\', 't']
  else if c = '\n' then ['\\', 'n']
  else if c = '\x0c' then ['\\', 'f']
  else if c = '\r' then ['\\', 'r']
  else if c.toNat < 0x20 then ['\\', 'u', '0', '0', hexDigit (c.toNat / 16), hexDigit (c.toNat % 16)]
  else [c]

def stringText (s : String) : String := "\"" ++ String.ofList (s.toList.flatMap escapeChar) ++ "\""

mutual

def text : Json → String
  | .null => "null"
  | .bool b => if b then "true" else "false"
  | .number n => n.text
  | .string s => stringText s
  | .array items => "[" ++ ",".intercalate (itemTexts items) ++ "]"
  | .object members => "\x7b" ++ ",".intercalate (memberTexts members) ++ "\x7d"

def itemTexts : List Json → List String
  | [] => []
  | v :: vs => v.text :: itemTexts vs

def memberTexts : List Member → List String
  | [] => []
  | ⟨key, value⟩ :: ms => (stringText key ++ ":" ++ value.text) :: memberTexts ms

end

end SqlBuilder.Json
