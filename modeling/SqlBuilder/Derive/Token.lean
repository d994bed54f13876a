import SqlBuilder.Text.Blank
import SqlBuilder.Text.Reader
/-!
The words and signs that definitions are written in. White space and comments stand between them and
belong to none.
-/
namespace SqlBuilder.Derive

open Text

inductive Token where
  -- a name or a number
  | word (cs : List Char)
  -- a name behind a single quote
  | lifetime (cs : List Char)
  -- a text or a character with its quotes
  | quoted (cs : List Char)
  | path
  | arrow
  | sign (c : Char)
  deriving DecidableEq

namespace Token

def chars : Token → List Char
  | word cs => cs
  | lifetime cs => '\'' :: cs
  | quoted cs => cs
  | path => [':', ':']
  | arrow => ['-', '>']
  | sign c => [c]

-- White space and the two marks for the direction of a text.
def isSpace (c : Char) : Bool := isBlank c || c = '\u200e' || c = '\u200f'

-- All signs are ASCII characters.
def isWordChar (c : Char) : Bool := c.isAlphanum || c = '_' || (0x80 ≤ c.toNat && !isSpace c)

-- The characters of a word in front and what follows it. A name may have the mark `r#` in front, which
-- keeps it from being a keyword.
def splitWord : List Char → List Char × List Char
  | 'r' :: '#' :: c :: cs =>
    if isWordChar c then ('r' :: '#' :: (c :: cs).takeWhile isWordChar, (c :: cs).dropWhile isWordChar)
    else (['r'], '#' :: c :: cs)
  | cs => (cs.takeWhile isWordChar, cs.dropWhile isWordChar)

-- A text up to its closing quote, which it keeps. Behind a backslash a quote does not close it.
def upToQuote (quote : Char) : Reader (List Char)
  | '\\' :: c :: cs => (upToQuote quote cs).map fun (body, rest) => ('\\' :: c :: body, rest)
  | c :: cs =>
    if c = quote then some ([c], cs) else (upToQuote quote cs).map fun (body, rest) => (c :: body, rest)
  | [] => none

-- A text up to the first place where `closing` stands, which it keeps.
def upTo (closing : List Char) : Reader (List Char)
  | c :: cs =>
    if closing.isPrefixOf (c :: cs) then some (closing, (c :: cs).drop closing.length)
    else (upTo closing cs).map fun (body, rest) => (c :: body, rest)
  | [] => none

-- A quoted text with what stands in front of its body.
def quotedBehind (front : List Char) (body : Reader (List Char)) : Reader Token := fun cs =>
  (body cs).map fun (body, rest) => (quoted (front ++ body), rest)

-- A word, or the quoted text that it belongs to. With an `r` in that word a backslash in the text stands
-- for itself, and as many `#` as in front of the text close it.
def wordOrQuoted (cs : List Char) : Reader Token := fun rest =>
  let marks := rest.takeWhile (· = '#')
  match rest.dropWhile (· = '#') with
  | '"' :: rest' =>
    if cs ∈ ["r".toList, "br".toList, "cr".toList] then
      quotedBehind (cs ++ marks ++ ['"']) (upTo ('"' :: marks)) rest'
    else if cs ∈ ["b".toList, "c".toList] ∧ marks = [] then
      quotedBehind (cs ++ ['"']) (upToQuote '"') rest'
    else some (word cs, rest)
  | '\'' :: rest' =>
    if cs = ['b'] ∧ marks = [] then quotedBehind ['b', '\''] (upToQuote '\'') rest'
    else some (word cs, rest)
  | _ => some (word cs, rest)

-- The token in front of a text. A single quote opens a character if another one closes it behind that.
def first? : Reader Token
  | ':' :: ':' :: cs => some (path, cs)
  | '-' :: '>' :: cs => some (arrow, cs)
  | '"' :: cs => quotedBehind ['"'] (upToQuote '"') cs
  | '\'' :: '\\' :: cs => quotedBehind ['\''] (upToQuote '\'') ('\\' :: cs)
  | '\'' :: c :: '\'' :: cs => some (quoted ['\'', c, '\''], cs)
  | '\'' :: cs =>
    let (name, rest) := splitWord cs
    some (lifetime name, rest)
  | c :: cs =>
    if isWordChar c then
      let (name, rest) := splitWord (c :: cs)
      wordOrQuoted name rest
    else some (sign c, cs)
  | [] => none

-- What follows a comment in whose `depth + 1` nested openings the text begins.
def behindComment? (depth : Nat) : List Char → Option (List Char)
  | '/' :: '*' :: cs => behindComment? (depth + 1) cs
  | '*' :: '/' :: cs =>
    match depth with
    | 0 => some cs
    | depth + 1 => behindComment? depth cs
  | _ :: cs => behindComment? depth cs
  | [] => none

-- The tokens of a text. Each step takes at least one character, so as many steps as characters suffice.
def scan (steps : Nat) (cs : List Char) : Option (List Token) :=
  match steps, cs.dropWhile isSpace with
  | _, [] => some []
  | 0, _ :: _ => none
  | steps + 1, '/' :: '/' :: cs => scan steps (cs.dropWhile (· ≠ '\n'))
  | steps + 1, '/' :: '*' :: cs => (behindComment? 0 cs).bind (scan steps)
  | steps + 1, cs =>
    match first? cs with
    | some (token, rest) => (scan steps rest).map (token :: ·)
    | none => none

def ofText? (s : String) : Option (List Token) := scan s.length s.toList

end Token

end SqlBuilder.Derive
