/-!
# Pieces of texts

Texts are taken apart at marks and compared with fixed parts.
-/

namespace Acquisition.Text

/-- The pieces of a text between its marks. -/
def pieces (mark : Char) : List Char → List (List Char)
  | [] => [[]]
  | c :: cs =>
    if c == mark then [] :: pieces mark cs
    else
      match pieces mark cs with
      | [] => [[c]]
      | piece :: more => (c :: piece) :: more

/-- The texts before and after the first mark. -/
def splitFirst? (mark : Char) (text : List Char) : Option (List Char × List Char) :=
  match text.span (· != mark) with
  | (before, _ :: after) => some (before, after)
  | (_, []) => none

/-- The text behind a fixed beginning. -/
def dropBeginning? (beginning : String) (text : List Char) : Option (List Char) :=
  if beginning.toList.isPrefixOf text then some (text.drop beginning.toList.length) else none

/-- The part occurs in the text. -/
def occurs (part : String) : List Char → Bool
  | [] => part.isEmpty
  | c :: cs => part.toList.isPrefixOf (c :: cs) || occurs part cs

end Acquisition.Text
