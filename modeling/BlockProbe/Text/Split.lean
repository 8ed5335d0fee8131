/-
Cutting a text at a mark.

`split` returns the stretches between the marks, so there is always one more of them than marks, and joining them with
the mark gives the text back.
-/

namespace BlockProbe.Text

/-- the stretches between the marks of a character list, `current` being the one in progress in reverse -/
def splitFrom (mark : Char) (current : List Char) : List Char → List (List Char)
  | [] => [current.reverse]
  | c :: rest =>
    if c = mark then current.reverse :: splitFrom mark [] rest else splitFrom mark (c :: current) rest

/-- the stretches between the marks of a text -/
def split (mark : Char) (text : String) : List String :=
  (splitFrom mark [] text.toList).map String.ofList

end BlockProbe.Text
