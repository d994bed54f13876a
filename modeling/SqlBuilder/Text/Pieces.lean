/-!
Texts taken apart at separating characters.
-/
namespace SqlBuilder.Text

-- The pieces between the characters that separate, one more than there are of them.
def pieces (separates : Char → Bool) : List Char → List (List Char)
  | [] => [[]]
  | c :: cs =>
    if separates c then [] :: pieces separates cs
    else match pieces separates cs with
      | [] => [[c]]
      | p :: ps => (c :: p) :: ps

end SqlBuilder.Text
