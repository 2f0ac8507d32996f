/-!
# Text/Pieces — a text cut at a character

Cutting a text with `n` separators gives `n + 1` pieces, some of them perhaps empty.
-/

namespace Recast.Text

/-- The pieces of a text between its occurrences of `sep`. -/
def pieces (sep : Char) : List Char → List (List Char)
  | [] => [[]]
  | c :: rest =>
    match pieces sep rest with
    | [] => [[c]]
    | piece :: others => if c == sep then [] :: piece :: others else (c :: piece) :: others

end Recast.Text
