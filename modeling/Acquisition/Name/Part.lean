import Acquisition.Name.Token
import Acquisition.Text.Lowercase

/-!
# Names of parts, discs and samples

A work that was split over several files carries a part identifier such as ` cd1` or `-Part B` in
their names, or sits in folders such as `Disc 2`.  A sample names itself.

## Main definitions

* `withoutPart?`: a file stem without its part identifier.
* `isDiscFolder`: the name of a folder that holds one disc.
* `namesSample`: the name of a file that calls itself a sample.
-/

namespace Acquisition.Name

open Text

/-! ### Pieces of the identifiers -/

/-- A character that may stand around a part word. -/
def isPartSeparator (c : Char) : Bool :=
  c == ' ' || c == '_' || c == '.' || c == '-'

/-- A letter that may number a part. -/
def isPartLetter (c : Char) : Bool :=
  'a' ≤ c.toLower && c.toLower ≤ 'd'

/-- The words for a disc. -/
def discWords : List String := ["cd", "dvd", "disc", "disk"]

/-- The words for a part of a work. -/
def partWords : List String := ["cd", "dvd", "part", "pt", "disc", "disk"]

/-- The text behind the first of the words that stands at its front. -/
def dropAnyWord? (words : List String) (text : List Char) : Option (List Char) :=
  words.findSome? fun word => dropSpelling sameLetter word.toList text

/-! ### Part identifiers -/

/-- The text behind the designator of a part: one or two digits or a letter, and a word
boundary. -/
def dropDesignator? (text : List Char) : Option (List Char) :=
  match text with
  | c :: d :: rest =>
    if c.isDigit && d.isDigit && isBoundary (some d) rest.head? then some rest
    else if (c.isDigit || isPartLetter c) && isBoundary (some c) (some d) then some (d :: rest)
    else none
  | [c] => if c.isDigit || isPartLetter c then some [] else none
  | [] => none

/-- The text behind a part identifier at its front: separators, a part word, separators if any,
and a designator. -/
def dropPart? (text : List Char) : Option (List Char) :=
  match text with
  | c :: rest =>
    if isPartSeparator c then
      match dropAnyWord? partWords (rest.dropWhile isPartSeparator) with
      | some rest => dropDesignator? (rest.dropWhile isPartSeparator)
      | none => none
    else none
  | [] => none

/-- The texts before and after the first part identifier, given the text already passed, last
character first. -/
def splitPartFrom (passed : List Char) : List Char → Option (List Char × List Char)
  | [] => none
  | c :: cs =>
    match dropPart? (c :: cs) with
    | some rest => some (passed.reverse, rest)
    | none => splitPartFrom (c :: passed) cs

/-- A file stem without its first part identifier, in lower case; nothing when it has none or
starts with it. -/
def withoutPart? (stem : String) : Option String :=
  match splitPartFrom [] stem.toList with
  | some ([], _) => none
  | some (before, after) => some (lowercase (String.ofList (before ++ after)))
  | none => none

/-! ### Disc folders -/

/-- A folder named for one disc of a release: a disc word, separators if any, and a number or a
letter. -/
def isDiscFolder (name : String) : Bool :=
  match dropAnyWord? discWords name.toList with
  | some rest =>
    match rest.dropWhile isPartSeparator with
    | [] => false
    | [c] => c.isDigit || isPartLetter c
    | cs => cs.all Char.isDigit
  | none => false

/-! ### Samples -/

/-- A place that may border the word for a sample: outside the text, an underscore, or no word
character. -/
def isSampleBorder (place : Option Char) : Bool :=
  place == some '_' || !isWordPlace place

/-- The word for a sample stands somewhere in the text, with a border on either side. -/
def namesSampleFrom (before : Option Char) : List Char → Bool
  | [] => false
  | c :: cs =>
    let here :=
      match dropSpelling sameLetter "sample".toList (c :: cs) with
      | some rest => isSampleBorder before && isSampleBorder rest.head?
      | none => false
    here || namesSampleFrom (some c) cs

/-- The file name calls its file a sample. -/
def namesSample (name : String) : Bool :=
  namesSampleFrom none name.toList

end Acquisition.Name
