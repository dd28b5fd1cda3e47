/-!
# Labels in ASCII letters

A label of a domain name may be written in letters, digits and hyphens alone: its ASCII
characters come first, then a hyphen, then numbers that tell which other characters stand where.
The characters are inserted in the order of their code points, each number being the distance
from one insertion to the next.  A number is written with the least digit first, and how large a
last digit may be follows the sizes of the numbers before it.

## Main definitions

* `readNumber?`: one number at the front of a text.
* `insertAll?`: the insertions that the numbers of a text order.
* `decode?`: the label that a text writes.
-/

namespace Acquisition.Domain.Punycode

/-! ### Numbers -/

/-- The value of a digit: the letters are 0 to 25, the decimal digits 26 to 35. -/
def digit? (c : Char) : Option Nat :=
  if 'a' ≤ c && c ≤ 'z' then some (c.toNat - 'a'.toNat)
  else if c.isDigit then some (c.toNat - '0'.toNat + 26)
  else none

/-- All numbers stay below this bound. -/
def bound : Nat := Nat.pow 2 32

/-- A digit below the threshold ends its number.  The threshold grows with the place of the digit,
given as a multiple of 36. -/
def threshold (bias place : Nat) : Nat :=
  if place ≤ bias then 1 else if bias + 26 ≤ place then 26 else place - bias

/-- Adds the number at the front of a text to `sum`: its first digit has the weight `weight`.
Returns the rest of the text too. -/
def readNumber? (bias place weight sum : Nat) : List Char → Option (Nat × List Char)
  | [] => none
  | c :: cs =>
    match digit? c with
    | none => none
    | some digit =>
      let sum := sum + digit * weight
      let next := weight * (36 - threshold bias place)
      if bound ≤ sum then none
      else if digit < threshold bias place then some (sum, cs)
      else if bound ≤ next then none
      else readNumber? bias (place + 36) next sum cs

/-- A number has at least one digit. -/
theorem length_lt_of_readNumber? {bias place weight sum total : Nat} {cs rest : List Char}
    (h : readNumber? bias place weight sum cs = some (total, rest)) : rest.length < cs.length := by
  induction cs generalizing place weight sum with
  | nil => simp [readNumber?] at h
  | cons c cs ih =>
    simp only [readNumber?] at h
    split at h
    · simp at h
    · split at h
      · simp at h
      · split at h
        · simp only [Option.some.injEq, Prod.mk.injEq] at h
          simp [← h.2]
        · split at h
          · simp at h
          · exact Nat.lt_succ_of_lt (ih h)

/-! ### The bias -/

/-- Divides a distance by 35 until it is at most 455; returns 36 for every division, too. -/
def scaleDown (distance scale : Nat) : Nat × Nat :=
  if 455 < distance then scaleDown (distance / 35) (scale + 36) else (distance, scale)
termination_by distance
decreasing_by exact Nat.div_lt_self (by omega) (by omega)

/-- The bias after a distance that led to a text of `size` characters.  The first distance is
large and counts for little. -/
def nextBias (distance size : Nat) (isFirst : Bool) : Nat :=
  let share := if isFirst then distance / 700 else distance / 2
  let (scaled, scale) := scaleDown (share + share / size) 0
  scale + 36 * scaled / (scaled + 38)

/-! ### Labels -/

/-- Inserts the characters that the numbers in `code` order into `text`.  The search for the next
place goes on at `place` with the character `point`. -/
def insertAll? (text : List Char) (point place bias : Nat) (code : List Char) :
    Option (List Char) :=
  if code.isEmpty then some text
  else
    match _h : readNumber? bias 36 1 place code with
    | none => none
    | some (sum, rest) =>
      let size := text.length + 1
      let point := point + sum / size
      if point.isValidChar then
        insertAll? (text.insertIdx (sum % size) (Char.ofNat point)) point (sum % size + 1)
          (nextBias (sum - place) size (place == 0)) rest
      else none
termination_by code.length
decreasing_by exact length_lt_of_readNumber? ‹_›

/-- The label that a text writes: ASCII characters up to the last hyphen, unless that is the first
character, and the numbers behind it. -/
def decode? (text : List Char) : Option (List Char) :=
  match text.reverse.span (· != '-') with
  | (code, _ :: c :: cs) => insertAll? (c :: cs).reverse 128 0 72 code.reverse
  | _ => insertAll? [] 128 0 72 text

end Acquisition.Domain.Punycode
