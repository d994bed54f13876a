import SqlBuilder.Text.Hex
import SqlBuilder.Text.Pieces
/-!
Universally unique identifiers.
-/
namespace SqlBuilder

structure Uuid where
  bytes : List UInt8
  length_eq : bytes.length = 16
  deriving DecidableEq

namespace Uuid

open Text

def ofBytes? (bytes : List UInt8) : Option Uuid :=
  if h : bytes.length = 16 then some ⟨bytes, h⟩ else none

def ofHex? (cs : List Char) : Option Uuid := (bytesOfHex? cs).bind ofBytes?

-- Five groups of digits joined by hyphens.
def ofHyphenated? (cs : List Char) : Option Uuid :=
  let groups := pieces (· = '-') cs
  if groups.map List.length = [8, 4, 4, 4, 12] then ofHex? groups.flatten else none

-- Plain digits, hyphenated digits, or hyphenated digits in braces or behind `urn:uuid:`, whose
-- letters may be of either case.
def ofText? (s : String) : Option Uuid :=
  let cs := s.toList
  let urn := "urn:uuid:".toList
  if cs.length = 32 then ofHex? cs
  else if urn.isPrefixOf (cs.map Char.toLower) then ofHyphenated? (cs.drop urn.length)
  else match cs with
    | '\x7b' :: rest => if rest.getLast? = some '\x7d' then ofHyphenated? rest.dropLast else none
    | _ => ofHyphenated? cs

-- Lower case digits in five hyphenated groups.
def text (u : Uuid) : String :=
  let cs := hexOfBytes u.bytes
  String.ofList (cs.take 8 ++ '-' :: ((cs.drop 8).take 4 ++ '-' :: ((cs.drop 12).take 4
    ++ '-' :: ((cs.drop 16).take 4 ++ '-' :: cs.drop 20))))

end Uuid

end SqlBuilder
