/-!
# Written identifiers

A number below 2 ^ 128 is written as 32 hexadecimal digits in groups of 8, 4, 4, 4 and 12.
Reading also accepts the digits without the groups, in braces, or behind a name.
-/

namespace Acquisition.Text.Uuid

/-- The hexadecimal digit with the value. -/
def digit (n : Nat) : Char :=
  if n < 10 then Char.ofNat (48 + n) else Char.ofNat (87 + n)

/-- The last `width` hexadecimal digits of a number. -/
def digits : Nat → Nat → List Char
  | 0, _ => []
  | width + 1, n => digits width (n / 16) ++ [digit (n % 16)]

/-- The digits of a number in groups. -/
def write (n : Nat) : String :=
  String.ofList <| digits 8 (n >>> 96) ++ '-' :: digits 4 (n >>> 80) ++ '-' :: digits 4 (n >>> 64)
    ++ '-' :: digits 4 (n >>> 48) ++ '-' :: digits 12 n

/-- The value of a hexadecimal digit. -/
def digitValue? (c : Char) : Option Nat :=
  if c.isDigit then some (c.toNat - 48)
  else if 'a' ≤ c && c ≤ 'f' then some (c.toNat - 87)
  else if 'A' ≤ c && c ≤ 'F' then some (c.toNat - 55)
  else none

/-- The number that hexadecimal digits write. -/
def valueOf? (digits : List Char) : Option Nat :=
  digits.foldlM (fun n c => (digitValue? c).map (16 * n + ·)) 0

/-- The digits of a text in groups. -/
def ungroup? (text : List Char) : Option (List Char) :=
  if text.length == 36 && [8, 13, 18, 23].all (text[·]? == some '-') then
    some (text.take 8 ++ (text.drop 9).take 4 ++ (text.drop 14).take 4 ++ (text.drop 19).take 4 ++
      text.drop 24)
  else none

/-- The number that a text writes: plain digits, digits in groups, and the latter in braces or
behind `urn:uuid:`. -/
def read? (text : String) : Option Nat :=
  let cs := text.toList
  let name := "urn:uuid:".toList
  let digits :=
    if cs.length == 32 then some cs
    else if cs.length == 38 && cs.head? == some '{' && cs.getLast? == some '}' then
      ungroup? ((cs.drop 1).take 36)
    else if cs.length == 45 && name.isPrefixOf cs then ungroup? (cs.drop 9)
    else ungroup? cs
  digits.bind valueOf?

end Acquisition.Text.Uuid
