import SqlBuilder.Error
import SqlBuilder.Sql.Query
/-!
Where raw text has placeholders: at each `?` outside quotes that does not begin one of the operators
`??`, `?|` and `?&`.
-/
namespace SqlBuilder.Sql.Raw

-- The characters that open a quoted region, closed by the same character.
def opensQuote (c : Char) : Bool := c = '\'' || c = '"' || c = '`'

-- The characters that make an operator of the question mark before them.
def continuesOperator (c : Char) : Bool := c = '?' || c = '|' || c = '&'

-- A character of raw text, or a placeholder in its place.
inductive Mark where
  | char (c : Char)
  | hole
  deriving DecidableEq

-- Text read from inside the region that `quote` closes, or from outside of any. Inside a region the
-- closing character twice is an escape.
def marks (quote : Option Char) : List Char → List Mark
  | [] => []
  | [c] => [if quote = none ∧ c = '?' then .hole else .char c]
  | c :: c' :: cs =>
    match quote with
    | some q =>
      if c = q ∧ c' = q then .char c :: .char c' :: marks quote cs
      else .char c :: marks (if c = q then none else quote) (c' :: cs)
    | none =>
      if c = '?' ∧ continuesOperator c' then .char c :: .char c' :: marks none cs
      else if c = '?' then .hole :: marks none (c' :: cs)
      else .char c :: marks (if opensQuote c then some c else none) (c' :: cs)

def tooFewBinds (r : Raw) : Error :=
  .compile ("raw sql `" ++ r.sql ++ "` has more placeholders than bindings")

def tooManyBinds (r : Raw) : Error :=
  .compile ("raw sql `" ++ r.sql ++ "` has more bindings than placeholders")

end SqlBuilder.Sql.Raw
