import SqlBuilder.Derive.Tree
/-!
Types as they are written, and which of them are optional: paths that end in `Option` with exactly one
type as argument.
-/
namespace SqlBuilder.Derive

open Text

structure TypeText where
  trees : List Tree

namespace TypeText

def ofText? (s : String) : Option TypeText := (Tree.ofText? s).map TypeText.mk

-- The type without white space.
def text (t : TypeText) : String := String.ofList ((Tree.listChars t.trees).filter (!isBlank ·))

-- Whether a word stands for a value: a truth value or a number.
def isValue (cs : List Char) : Bool :=
  cs = "true".toList || cs = "false".toList || cs.head?.any Char.isDigit

-- Whether an argument binds or constrains a name.
def isBinding (ts : List Tree) : Bool :=
  ts.any fun
    | .leaf (.sign '=') => true
    | .leaf (.sign ':') => true
    | _ => false

-- Whether an argument is a type, and not a lifetime, a value or a name with a type or a bound.
def isType : List Tree → Bool
  | [] => false
  | [.leaf (.lifetime _)] => false
  | .leaf (.quoted _) :: _ => false
  | .leaf (.sign '-') :: _ => false
  | .group .curly _ :: _ => false
  | .leaf (.word cs) :: ts => !isValue cs && !isBinding ts
  | _ => true

def isOneType (arguments : List Tree) : Bool :=
  match Tree.parts [] arguments with
  | [a] => isType a
  | _ => false

-- A path without the `::` that may stand between a name and its arguments.
def joinArguments : List Tree → List Tree
  | .leaf .path :: .group b arguments :: ts => .group b arguments :: joinArguments ts
  | t :: ts => t :: joinArguments ts
  | [] => []

-- Whether a path ends in `Option` with one type. The arguments of a name are types, or those of a
-- function and its result, behind which the path goes on only if the result is in brackets.
def endsInOption : List Tree → Bool
  | [.leaf (.word name), .group .angle arguments] => name = "Option".toList && isOneType arguments
  | .leaf (.word _) :: .group _ _ :: .leaf .path :: ts => endsInOption ts
  | .leaf (.word _) :: .group .round _ :: .leaf .arrow :: .group .round _ :: .leaf .path :: ts =>
    endsInOption ts
  | .leaf (.word _) :: .leaf .path :: ts => endsInOption ts
  | _ => false

-- The keywords that stand in front of a type which is no path.
def keywords : List (List Char) := ["dyn".toList, "impl".toList, "fn".toList, "for".toList]

def isOptional (t : TypeText) : Bool :=
  match joinArguments t.trees with
  | .leaf .path :: ts => endsInOption ts
  | .leaf (.word cs) :: ts => !keywords.contains cs && endsInOption (.leaf (.word cs) :: ts)
  | _ => false

end TypeText

end SqlBuilder.Derive
