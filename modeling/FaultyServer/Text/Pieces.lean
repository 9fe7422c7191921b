/-!
# Splitting text

A text cut at every occurrence of a character. There is always one piece more than there are cuts,
so the empty text is one empty piece, and joining the pieces gives the text back.
-/

namespace FaultyServer.Text

/-- The pieces of a text between the occurrences of a character. -/
def pieces (cut : Char) : List Char → List (List Char)
  | [] => [[]]
  | c :: r =>
    if c = cut then [] :: pieces cut r
    else
      match pieces cut r with
      | first :: rest => (c :: first) :: rest
      | [] => [[c]]

/-- The pieces of a string between the occurrences of a character. -/
def split (cut : Char) (s : String) : List String := (pieces cut s.toList).map String.ofList

end FaultyServer.Text
