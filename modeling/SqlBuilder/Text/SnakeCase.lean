import SqlBuilder.Text.Alphanumeric
import SqlBuilder.Text.LetterCase
import SqlBuilder.Text.Pieces
/-!
Names in snake case: their words in lower case, joined by underscores.
-/
namespace SqlBuilder.Text

-- The case of the last letter of the word that is being read.
inductive LetterMode where
  | none | lower | upper
  deriving DecidableEq

def modeAfter (mode : LetterMode) (c : Char) : LetterMode :=
  if isLowercase c then .lower else if isUppercase c then .upper else mode

-- The words of a run of letters and numbers. A word ends behind a lower case letter that an upper case
-- letter follows, and before the last letter of a run of upper case letters that a lower case letter
-- follows. Numbers stand for the letter before them. `word` is what has been read of the word, the
-- last character first.
def wordsFrom (word : List Char) (mode : LetterMode) : List Char → List (List Char)
  | [] => if word.isEmpty then [] else [word.reverse]
  | [c] => [(c :: word).reverse]
  | c :: next :: rest =>
    if modeAfter mode c = .lower && isUppercase next then
      (c :: word).reverse :: wordsFrom [] .none (next :: rest)
    else if mode = .upper && isUppercase c && isLowercase next then
      word.reverse :: wordsFrom [c] .none (next :: rest)
    else wordsFrom (c :: word) (modeAfter mode c) (next :: rest)

-- A word in lower case. A sigma at its end takes its final form.
def lowercaseWord : List Char → List Char
  | [] => []
  | ['Σ'] => ['ς']
  | c :: cs => lowercase c ++ lowercaseWord cs

def snakeCase (s : String) : String :=
  let words := (pieces (!isAlphanumeric ·) s.toList).flatMap (wordsFrom [] .none)
  "_".intercalate (words.map fun w => String.ofList (lowercaseWord w))

end SqlBuilder.Text
