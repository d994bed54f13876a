import SqlBuilder.Text.Blank
import SqlBuilder.Text.Decimal
/-!
Reading a text from left to right. A reader takes what it needs off the front of the text, or
refuses it.
-/
namespace SqlBuilder.Text

abbrev Reader := StateT (List Char) Option

namespace Reader

-- Reads a text to its end.
def read? (r : Reader α) (s : String) : Option α :=
  match r s.toList with
  | some (a, []) => some a
  | _ => none

def refuse : Reader α := fun _ => none

-- One character that satisfies a condition.
def satisfy (p : Char → Bool) : Reader Char
  | c :: cs => if p c then some (c, cs) else none
  | [] => none

def char (c : Char) : Reader Unit := discard (satisfy (· = c))

def chars (s : String) : Reader Unit := s.toList.forM char

-- White space, if any.
def blanks : Reader Unit := fun cs => some ((), trimStart cs)

-- The first reader that does not refuse the text.
def orElse (r s : Reader α) : Reader α := fun cs => r cs <|> s cs

-- As many digits as there are, but not more than `atMost`.
def someDigits (atMost : Nat) : Reader (List Char) := fun cs =>
  let ds := (cs.take atMost).takeWhile isDigit
  some (ds, cs.drop ds.length)

-- A number of one digit up to `atMost` digits.
def number (atMost : Nat) : Reader Nat := do
  let ds ← someDigits atMost
  (natural? ds : Option Nat)

-- A number of exactly `count` digits.
def fixedNumber (count : Nat) : Reader Nat := do
  let ds ← someDigits count
  if ds.length = count then (natural? ds : Option Nat) else refuse

-- All digits in front, at least one.
def allDigits : Reader (List Char) := fun cs =>
  match cs.takeWhile isDigit with
  | [] => none
  | ds => some (ds, cs.dropWhile isDigit)

end Reader

end SqlBuilder.Text
