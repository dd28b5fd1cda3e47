import Acquisition.Domain.Mapping
import Acquisition.Domain.Punycode
import Acquisition.Text.Composition
import Acquisition.Text.Direction
import Acquisition.Text.Joining
import Acquisition.Text.Mark

/-!
# Domain names

A domain name is a row of labels with dots between them.  A label may be written in ASCII letters
behind `xn--`.  Labels that look alike are the same, and labels that would be hard to tell apart
or to read are no labels.

## Main definitions

* `Label`: the characters of a label.
* `Label.isWellFormed`: the rules for one label by itself.
* `Label.runsOneWay`: the rule for labels of names that run from right to left.
* `labels?`: the labels of a name.
-/

namespace Acquisition.Domain

/-- The characters between two dots of a name. -/
abbrev Label := List Char

namespace Label

/-! ### Characters -/

/-- A character that no label contains: blanks, controls, and marks with a meaning in addresses. -/
def isForbidden (c : Char) : Bool :=
  c.toNat ≤ 32 || c.toNat == 127 || ['#', '%', '/', ':', '<', '>', '?', '@', '[', '\\', ']', '^',
    '|'].contains c

/-- The control that keeps two letters from being joined. -/
def nonJoiner : Char := '\u200c'

/-- The control that joins two letters. -/
def joiner : Char := '\u200d'

/-- The nearest character that is no mark joins on the wanted side. -/
def meetsJoining (side : Text.Joining) (cs : List Char) : Bool :=
  ((cs.map Text.joining).find? (· != .transparent)).any fun kind => kind == side || kind == .both

/-- Every control of joining stands where it has an effect: behind a sign that takes the vowel, or,
if it parts letters, between two letters that would be joined.  `before` holds the characters in
front of the text, nearest first. -/
def joinersFit (before : List Char) : List Char → Bool
  | [] => true
  | c :: cs =>
    (!(c == joiner || c == nonJoiner) || before.head?.any Text.isVirama ||
        c == nonJoiner && meetsJoining .after before && meetsJoining .before cs) &&
      joinersFit (c :: before) cs

/-- A label begins with no mark, contains no forbidden character, and has its controls of joining
in their places.  It has at most a thousand characters if one of them is outside ASCII. -/
def isWellFormed (label : Label) : Bool :=
  !label.head?.any Text.isMark && !label.any isForbidden && joinersFit [] label &&
    (label.length ≤ 1000 || label.all fun c => c.val < 128)

/-! ### Directions -/

/-- The label contains a character that runs from right to left. -/
def hasRightToLeft (label : Label) : Bool :=
  label.any fun c => [.rightToLeft, .arabicNumber].contains (Text.direction c)

/-- A label runs one way if its first character shows which way, all others go along with it, and
the last one that is no mark is no sign.  From right to left, only one kind of digits occurs. -/
def runsOneWay (label : Label) : Bool :=
  let kinds := label.map Text.direction
  let last := kinds.reverse.find? (· != .mark)
  match kinds with
  | [] => true
  | .leftToRight :: _ =>
    kinds.all (fun k => k != .rightToLeft && k != .arabicNumber) &&
      (last == some .leftToRight || last == some .europeanNumber)
  | .rightToLeft :: _ =>
    kinds.all (· != .leftToRight) && last != some .neutral &&
      !(kinds.contains .arabicNumber && kinds.contains .europeanNumber)
  | _ => false

/-! ### Labels in ASCII letters -/

/-- The label that the text behind `xn--` writes, in at most 2000 ASCII characters.  The characters
of the label are kept in names, it is in composed form, and one of them is outside ASCII. -/
def ofCode? (code : List Char) : Option Label :=
  if code.getLast?.all (· == '-') || 2000 < code.length || !code.all (·.val < 128) then none
  else
    (Punycode.decode? code).filter fun label =>
      (label.all fun c => reading c == .kept) && Text.composed label == label

/-- The label that is written so. -/
def ofWritten? (written : List Char) : Option Label :=
  match Text.dropBeginning? "xn--" written with
  | some code => ofCode? code
  | none => some written

end Label

/-! ### Names -/

/-- The labels of the name that a text writes, if it writes one. -/
def labels? (text : List Char) : Option (List Label) := do
  let written := Text.composed (← mapped? text)
  let labels ← (Text.pieces '.' written).mapM Label.ofWritten?
  let isOrdered := !labels.any Label.hasRightToLeft || labels.all Label.runsOneWay
  if labels.all Label.isWellFormed && isOrdered then some labels else none

end Acquisition.Domain
