import SqlBuilder.Derive.Token
/-!
Tokens nested by their brackets. The signs `<` and `>` are brackets where types stand and comparisons
where expressions do, that is in curly brackets, behind a semicolon or an equals sign, and in what a
name with an exclamation mark or a number sign takes.
-/
namespace SqlBuilder.Derive

inductive Bracket where
  | round
  | square
  | curly
  | angle
  deriving DecidableEq

namespace Bracket

def opening : Bracket → Char
  | round => '('
  | square => '['
  | curly => '\x7b'
  | angle => '<'

def closing : Bracket → Char
  | round => ')'
  | square => ']'
  | curly => '\x7d'
  | angle => '>'

def all : List Bracket := [round, square, curly, angle]

def opened? (c : Char) : Option Bracket := all.find? (·.opening = c)

def closed? (c : Char) : Option Bracket := all.find? (·.closing = c)

end Bracket

inductive Tree where
  | leaf (t : Token)
  | group (b : Bracket) (ts : List Tree)

namespace Tree

mutual

def chars : Tree → List Char
  | leaf t => t.chars
  | group b ts => b.opening :: (listChars ts ++ [b.closing])

def listChars : List Tree → List Char
  | [] => []
  | t :: ts => t.chars ++ listChars ts

end

def isComma : Tree → Bool
  | leaf (.sign ',') => true
  | _ => false

-- The parts between commas. A comma may follow the last one. `part` is the part being read, its last
-- tree first.
def parts (part : List Tree) : List Tree → List (List Tree)
  | [] => if part.isEmpty then [] else [part.reverse]
  | t :: ts => if t.isComma then part.reverse :: parts [] ts else parts (t :: part) ts

def isLifetime : List Tree → Bool
  | [leaf (.lifetime _)] => true
  | _ => false

-- The arguments of a type with the lifetimes in front. The one that comes last keeps the comma behind it.
def lifetimesFirst (ts : List Tree) : List Tree :=
  let comma := leaf (.sign ',')
  let arguments := parts [] ts
  let (lifetimes, others) := arguments.partition isLifetime
  let moved := !others.isEmpty && arguments.getLast?.any isLifetime
  [comma].intercalate (lifetimes ++ others) ++
    if moved || ts.getLast?.any isComma then [comma] else []

end Tree

-- A bracket that is still open, or the whole text, with what it holds so far, the last tree first.
structure Frame where
  bracket : Option Bracket
  holdsTypes : Bool
  trees : List Tree

structure Nesting where
  top : Frame
  below : List Frame

namespace Nesting

def start : Nesting := ⟨⟨none, true, []⟩, []⟩

def push (n : Nesting) (t : Tree) : Nesting := { n with top := { n.top with trees := t :: n.top.trees } }

-- Whether what follows belongs to a name with an exclamation mark or to a number sign.
def isMarked (n : Nesting) : Bool :=
  match n.top.trees with
  | .leaf (.sign '!') :: _ => true
  | .leaf (.sign '#') :: _ => true
  | _ => false

def enter (n : Nesting) (b : Bracket) : Nesting :=
  ⟨⟨some b, n.top.holdsTypes && b ≠ .curly && !n.isMarked, []⟩, n.top :: n.below⟩

def leave? (n : Nesting) (b : Bracket) : Option Nesting :=
  match n.below with
  | f :: below =>
    if n.top.bracket = some b then
      let ts := n.top.trees.reverse
      some (push ⟨f, below⟩ (.group b (if b = .angle then Tree.lifetimesFirst ts else ts)))
    else none
  | [] => none

-- Takes a sign that is no bracket.
def pushSign (n : Nesting) (c : Char) : Nesting :=
  let n := n.push (.leaf (.sign c))
  if (c = ';' ∨ c = '=') ∧ n.top.bracket ≠ some .angle then { n with top := { n.top with holdsTypes := false } }
  else n

def step? (n : Nesting) : Token → Option Nesting
  | .sign c =>
    if (c = '<' ∨ c = '>') ∧ !n.top.holdsTypes then some (n.pushSign c)
    else match Bracket.opened? c, Bracket.closed? c with
      | some b, _ => some (n.enter b)
      | none, some b => n.leave? b
      | none, none => some (n.pushSign c)
  | t => some (n.push (.leaf t))

end Nesting

namespace Tree

def ofTokens? (ts : List Token) : Option (List Tree) :=
  match ts.foldlM Nesting.step? Nesting.start with
  | some ⟨f, []⟩ => some f.trees.reverse
  | _ => none

def ofText? (s : String) : Option (List Tree) := (Token.ofText? s).bind ofTokens?

end Tree

end SqlBuilder.Derive
