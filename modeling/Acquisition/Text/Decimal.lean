import Acquisition.Text.Blank

/-!
# Numbers in texts

Integers are written as digits behind an optional sign.  Floating-point numbers may have a
fraction and an exponent, and there are words for infinity and for no number.

## Main definitions

* `readInt?`: an integer of 64 bits.
* `readFloat?`: a floating-point number.
-/

namespace Acquisition.Text

/-- The sign at the front of a text, and the text behind it. -/
def splitSign : List Char → Bool × List Char
  | '-' :: rest => (true, rest)
  | '+' :: rest => (false, rest)
  | rest => (false, rest)

/-- The number that digits write. -/
def digitsNumber (digits : List Char) : Nat :=
  digits.foldl (fun n c => 10 * n + (c.toNat - 48)) 0

/-- An integer with its sign, whatever its size. -/
def readAnyInt? (text : String) : Option Int :=
  let (negative, digits) := splitSign text.toList
  if digits.isEmpty || !digits.all Char.isDigit then none
  else
    let n : Int := digitsNumber digits
    some (if negative then -n else n)

/-- An integer of 64 bits with a sign. -/
def readInt? (text : String) : Option Int :=
  (readAnyInt? text).filter fun n => Int64.minValue.toInt ≤ n && n ≤ Int64.maxValue.toInt

/-- The exponent behind a number: nothing, or a mark, a sign and digits. -/
def readExponent? : List Char → Option Int
  | [] => some 0
  | mark :: rest => if mark == 'e' || mark == 'E' then readAnyInt? (String.ofList rest) else none

/-- The digits of a number and the exponent of ten that they are multiplied by. -/
def readScientific? (text : List Char) : Option (Nat × Int) :=
  let (whole, rest) := text.span Char.isDigit
  let (fraction, rest) :=
    match rest with
    | '.' :: rest => rest.span Char.isDigit
    | _ => ([], rest)
  if whole.isEmpty && fraction.isEmpty then none
  else
    (readExponent? rest).map fun exponent =>
      (digitsNumber (whole ++ fraction), exponent - fraction.length)

/-- The floating-point number that is nearest to digits times a power of ten. -/
def nearestFloat (digits : Nat) (exponent : Int) : Float :=
  if digits == 0 then 0.0
  else if 400 < exponent then 1.0 / 0.0
  else if exponent < 0 then
    let places := exponent.natAbs
    let length := (toString digits).length
    if length + 400 < places then 0.0 else Float.ofScientific digits true places
  else Float.ofScientific digits false exponent.toNat

/-- The smallest number that is closer to infinity than to the largest floating-point number: that
number lies one unit of its last place below `2 ^ 1024`, and this one half a unit. -/
def leastInfinite : Nat := Nat.pow 2 970 * (Nat.pow 2 54 - 1)

/-- Digits times a power of ten are closer to infinity than to any floating-point number. -/
def isInfinite (digits : Nat) (exponent : Int) : Bool :=
  if digits == 0 then false
  else if 400 < exponent then true
  else if 0 ≤ exponent then leastInfinite ≤ digits * Nat.pow 10 exponent.toNat
  else if (toString digits).length ≤ exponent.natAbs then false
  else leastInfinite * Nat.pow 10 exponent.natAbs ≤ digits

/-- A floating-point number with its sign. -/
def readFloat? (text : String) : Option Float :=
  let (negative, unsigned) := splitSign text.toList
  let word := (String.ofList unsigned).toLower
  let value? :=
    if word == "inf" || word == "infinity" then some (1.0 / 0.0)
    else if word == "nan" then some (0.0 / 0.0)
    else (readScientific? unsigned).map fun (digits, exponent) => nearestFloat digits exponent
  value?.map fun x => if negative then -x else x

end Acquisition.Text
