import SqlBuilder.Json.Number
import SqlBuilder.Text.Hex
/-!
The words of a JSON text.
-/
namespace SqlBuilder.Json

open Text

inductive Token where
  | openArray | closeArray | openObject | closeObject | comma | colon
  | null
  | bool (b : Bool)
  | number (n : Number)
  | string (s : List Char)

namespace Token

def hex4? (a b c d : Char) : Option Nat := do
  let a ← hexValue? a
  let b ← hexValue? b
  let c ← hexValue? c
  let d ← hexValue? d
  return 4096 * a + 256 * b + 16 * c + d

def isHighSurrogate (n : Nat) : Bool := 0xD800 ≤ n && n < 0xDC00

def isLowSurrogate (n : Nat) : Bool := 0xDC00 ≤ n && n < 0xE000

def simpleEscape? : Char → Option Char
  | '"' => some '"'
  | '\\' => some '\\'
  | '/' => some '/'
  | 'b' => some '\x08'
  | 'f' => some '\x0c'
  | 'n' => some '\n'
  | 'r' => some '\r'
  | 't' => some '\t'
  | _ => none

-- The characters of a string up to its closing quote, and what follows the quote. A character outside
-- the basic plane is escaped as a pair of surrogates, which do not stand alone.
def stringBody : List Char → Option (List Char × List Char)
  | '"' :: rest => some ([], rest)
  | '\\' :: 'u' :: a :: b :: c :: d :: rest =>
    match hex4? a b c d with
    | none => none
    | some n =>
      if isLowSurrogate n then none
      else if isHighSurrogate n then
        match rest with
        | '\\' :: 'u' :: a' :: b' :: c' :: d' :: rest' =>
          match hex4? a' b' c' d' with
          | none => none
          | some m =>
            if isLowSurrogate m then
              onto (Char.ofNat (0x10000 + (n - 0xD800) * 0x400 + (m - 0xDC00))) (stringBody rest')
            else none
        | _ => none
      else onto (Char.ofNat n) (stringBody rest)
  | '\\' :: e :: rest =>
    match simpleEscape? e with
    | some c => onto c (stringBody rest)
    | none => none
  | c :: rest => if c.toNat < 0x20 || c = '\\' then none else onto c (stringBody rest)
  | [] => none
where
  onto (c : Char) : Option (List Char × List Char) → Option (List Char × List Char)
    | some (cs, rest) => some (c :: cs, rest)
    | none => none

def isSpace (c : Char) : Bool := c = ' ' || c = '\n' || c = '\t' || c = '\r'

-- The first token of a text, after the white space in front of it, and the rest of the text.
def first? : Reader Token := do
  match ← get with
  | '[' :: cs => set cs; return openArray
  | ']' :: cs => set cs; return closeArray
  | '\x7b' :: cs => set cs; return openObject
  | '\x7d' :: cs => set cs; return closeObject
  | ',' :: cs => set cs; return comma
  | ':' :: cs => set cs; return colon
  | '"' :: cs => do
    let (s, rest) ← (stringBody cs : Option (List Char × List Char))
    set rest
    return string s
  | 'n' :: _ => do Reader.chars "null"; return null
  | 't' :: _ => do Reader.chars "true"; return bool true
  | 'f' :: _ => do Reader.chars "false"; return bool false
  | _ => return number (← Number.reader)

-- The tokens of a text. Each takes at least one character, so there are at most as many tokens as
-- characters, and a text that has a character left after that many steps is refused.
def scan (steps : Nat) (cs : List Char) : Option (List Token) :=
  match cs.dropWhile isSpace, steps with
  | [], _ => some []
  | _ :: _, 0 => none
  | c :: rest, steps + 1 =>
    match first? (c :: rest) with
    | some (token, rest) => (scan steps rest).map (token :: ·)
    | none => none

def ofText? (s : String) : Option (List Token) := scan s.length s.toList

end Token

end SqlBuilder.Json
