import Acquisition.Domain.Name

/-!
# Numeric addresses

The place of a host in its network is a number.  A dotted address writes it as up to four numbers
in the form of a domain name, a bracketed address as eight groups of hexadecimal digits.

## Main definitions

* `endsInNumber`, `dottedOk`: names that are meant as dotted addresses, and the well-formed ones.
* `bracketedOk`: the text between brackets is well-formed.
-/

namespace Acquisition.Domain

/-! ### Dotted addresses -/

/-- The value of a digit in a base up to sixteen. -/
def digitIn? (base : Nat) (c : Char) : Option Nat :=
  let value :=
    if c.isDigit then c.toNat - 48
    else if 'a' ≤ c.toLower && c.toLower ≤ 'f' then c.toLower.toNat - 87
    else base
  if value < base then some value else none

/-- The number that digits write in a base. -/
def numberIn? (base : Nat) (digits : List Char) : Option Nat :=
  digits.foldlM (fun n c => (digitIn? base c).map (base * n + ·)) 0

/-- One number of a dotted address: decimal, octal behind a zero, or hexadecimal behind `0x`. -/
def dottedNumber? : List Char → Option Nat
  | [] => none
  | '0' :: 'x' :: digits | '0' :: 'X' :: digits => numberIn? 16 digits
  | '0' :: digits => numberIn? 8 digits
  | digits => numberIn? 10 digits

/-- The labels of a name without an empty one behind others. -/
def withoutLastDot (labels : List Label) : List Label :=
  match labels.reverse with
  | [] :: (label :: before) => (label :: before).reverse
  | _ => labels

/-- A name is meant as a dotted address if its last label is a number. -/
def endsInNumber (labels : List Label) : Bool :=
  match (withoutLastDot labels).getLast? with
  | none => false
  | some last =>
    !last.isEmpty &&
      (last.all Char.isDigit ||
        match last with
        | '0' :: 'x' :: digits | '0' :: 'X' :: digits => (numberIn? 16 digits).isSome
        | _ => false)

/-- A dotted address: at most four numbers, all but the last one below 256, the last one below
what the missing places leave room for. -/
def dottedOk (labels : List Label) : Bool :=
  let parts := withoutLastDot labels
  match (parts.mapM dottedNumber?).map List.reverse with
  | some (last :: before) =>
    parts.length ≤ 4 && before.all (· < 256) && last < Nat.pow 256 (5 - parts.length)
  | _ => false

/-! ### Bracketed addresses -/

/-- A group of a bracketed address: one to four hexadecimal digits. -/
def groupOk (group : List Char) : Bool :=
  !group.isEmpty && group.length ≤ 4 && group.all fun c => (digitIn? 16 c).isSome

/-- One decimal number of the dotted end of a bracketed address. -/
def strictNumberOk (digits : List Char) : Bool :=
  !digits.isEmpty && digits.all Char.isDigit && (digits.length == 1 || digits.head? != some '0') &&
    digits.foldl (fun n c => 10 * n + (c.toNat - 48)) 0 < 256

/-- How many groups of a bracketed address a run of groups fills, if they are well formed; the
last group may be a dotted address, which fills two. -/
def groupCount? (groups : List (List Char)) : Option Nat :=
  match groups.reverse with
  | [] => some 0
  | last :: before =>
    if !before.all groupOk then none
    else if groupOk last then some groups.length
    else
      let numbers := Text.pieces '.' last
      if numbers.length == 4 && numbers.all strictNumberOk then some (groups.length + 1) else none

/-- The groups of a text, none if it is empty. -/
def groupsOf (text : List Char) : List (List Char) :=
  if text.isEmpty then [] else Text.pieces ':' text

/-- The texts before and after the first double colon. -/
def splitGap? : List Char → Option (List Char × List Char)
  | ':' :: ':' :: rest => some ([], rest)
  | c :: rest => (splitGap? rest).map fun (before, after) => (c :: before, after)
  | [] => none

/-- A bracketed address: eight groups, or fewer with one gap. -/
def bracketedOk (text : List Char) : Bool :=
  match splitGap? text with
  | some (before, after) =>
    match groupCount? (groupsOf before), groupCount? (groupsOf after) with
    | some m, some n => m + n ≤ 7 && before.all (· != '.')
    | _, _ => false
  | none => groupCount? (groupsOf text) == some 8

end Acquisition.Domain
