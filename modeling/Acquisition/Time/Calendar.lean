import Acquisition.Text.Blank
import Acquisition.Time.Span

/-!
# Written instants

An instant is written as date and time of day in Greenwich, `2020-09-13T12:26:40Z`, with a
fraction of three, six or nine digits when there is one.  Reading is more liberal: signs and
longer years, one-digit numbers, blanks between the parts, any number of fraction digits and any
offset are understood.

## Main definitions

* `daysOfDate`, `dateOfDays`: the days since the beginning of 1970 and the calendar.
* `Instant.write`, `Instant.read?`: the written form.
-/

namespace Acquisition

namespace Calendar

/-! ### Days -/

/-- A day of the calendar. -/
structure Date where
  year : Int
  month : Nat
  day : Nat
  deriving DecidableEq, Repr, Inhabited

/-- The days from the beginning of 1970 to a day.  Years are counted from March on, so that the
leap day comes last. -/
def daysOfDate (date : Date) : Int :=
  let year := if date.month ≤ 2 then date.year - 1 else date.year
  let era := Int.fdiv year 400
  let yearOfEra := year - era * 400
  let month : Int := if 2 < date.month then date.month - 3 else date.month + 9
  let dayOfYear := (153 * month + 2) / 5 + date.day - 1
  let dayOfEra := yearOfEra * 365 + yearOfEra / 4 - yearOfEra / 100 + dayOfYear
  era * 146097 + dayOfEra - 719468

/-- The day that many days after the beginning of 1970. -/
def dateOfDays (days : Int) : Date :=
  let shifted := days + 719468
  let era := Int.fdiv shifted 146097
  let dayOfEra := shifted - era * 146097
  let yearOfEra := (dayOfEra - dayOfEra / 1460 + dayOfEra / 36524 - dayOfEra / 146096) / 365
  let dayOfYear := dayOfEra - (365 * yearOfEra + yearOfEra / 4 - yearOfEra / 100)
  let month := (5 * dayOfYear + 2) / 153
  let day := dayOfYear - (153 * month + 2) / 5 + 1
  let month := if month < 10 then month + 3 else month - 9
  let year := yearOfEra + era * 400
  ⟨if month ≤ 2 then year + 1 else year, month.toNat, day.toNat⟩

/-- The year has a leap day. -/
def isLeapYear (year : Int) : Bool :=
  year % 4 == 0 && (year % 100 != 0 || year % 400 == 0)

/-- The number of days in a month. -/
def daysInMonth (year : Int) (month : Nat) : Nat :=
  if month == 2 then (if isLeapYear year then 29 else 28)
  else if month == 4 || month == 6 || month == 9 || month == 11 then 30
  else 31

/-- The day exists. -/
def Date.isValid (date : Date) : Bool :=
  1 ≤ date.month && date.month ≤ 12 && 1 ≤ date.day &&
    date.day ≤ daysInMonth date.year date.month &&
    -262143 ≤ date.year && date.year ≤ 262142

/-! ### Writing -/

/-- A number with leading zeros up to a width. -/
def padded (width n : Nat) : String :=
  let digits := toString n
  String.ofList (List.replicate (width - digits.length) '0') ++ digits

/-- A year: four digits, or a sign and at least four digits outside the first myriad. -/
def writeYear (year : Int) : String :=
  if 0 ≤ year && year ≤ 9999 then padded 4 year.toNat
  else (if year < 0 then "-" else "+") ++ padded 4 year.natAbs

/-- The fraction of a second: none, or as many groups of three digits as it takes. -/
def writeFraction (nanos : Nat) : String :=
  if nanos == 0 then ""
  else if nanos % 1000000 == 0 then "." ++ padded 3 (nanos / 1000000)
  else if nanos % 1000 == 0 then "." ++ padded 6 (nanos / 1000)
  else "." ++ padded 9 nanos

/-! ### Reading -/

/-- Reads one digit or more, at most `limit`. -/
def readDigits? (limit : Nat) (text : List Char) : Option (Nat × List Char) :=
  let digits := (text.take limit).takeWhile Char.isDigit
  if digits.isEmpty then none
  else some (digits.foldl (fun n c => 10 * n + (c.toNat - 48)) 0, text.drop digits.length)

/-- Reads a number of at most two digits behind blanks. -/
def readPart? (text : List Char) : Option (Nat × List Char) :=
  readDigits? 2 (Text.trimLeft text)

/-- Reads a year behind blanks: up to four digits, or a sign and any number of digits. -/
def readYear? (text : List Char) : Option (Int × List Char) :=
  match Text.trimLeft text with
  | '-' :: rest => (readDigits? rest.length rest).map fun (n, rest) => (-(n : Int), rest)
  | '+' :: rest => (readDigits? rest.length rest).map fun (n, rest) => ((n : Int), rest)
  | rest => (readDigits? 4 rest).map fun (n, rest) => ((n : Int), rest)

/-- The text behind a mark at its front, which blanks may precede. -/
def dropMark? (mark : Char) (text : List Char) : Option (List Char) :=
  match Text.trimLeft text with
  | c :: rest => if c == mark then some rest else none
  | [] => none

/-- Reads a fraction of a second in nanoseconds; digits behind the ninth do not count. -/
def readFraction? (text : List Char) : Option (Nat × List Char) :=
  match text with
  | '.' :: rest =>
    let digits := rest.takeWhile Char.isDigit
    if digits.isEmpty then none
    else
      let nine := (digits ++ List.replicate 9 '0').take 9
      some (nine.foldl (fun n c => 10 * n + (c.toNat - 48)) 0, rest.drop digits.length)
  | _ => some (0, text)

/-- Two digits as a number. -/
def twoDigits? (a b : Char) : Option Nat :=
  if a.isDigit && b.isDigit then some (10 * (a.toNat - 48) + (b.toNat - 48)) else none

/-- Reads an offset from Greenwich in seconds. -/
def readOffset? (text : List Char) : Option (Int × List Char) :=
  match text with
  | 'Z' :: rest | 'z' :: rest => some (0, rest)
  | u :: t :: c :: rest =>
    if [u.toLower, t.toLower, c.toLower] == ['u', 't', 'c'] then some (0, rest)
    else if u == '+' || u == '-' || u == '\u2212' then do
      let hours ← twoDigits? t c
      match rest.dropWhile fun c => c == ':' || Text.isBlank c with
      | a :: b :: rest =>
        let minutes ← twoDigits? a b
        let seconds : Int := (hours * 60 + minutes) * 60
        if 60 ≤ minutes || 24 ≤ hours then none
        else some (if u == '+' then seconds else -seconds, rest)
      | _ => none
    else none
  | _ => none

end Calendar

namespace Instant

open Calendar

/-- The written form of an instant. -/
def write (instant : Instant) : String :=
  let seconds := Int.fdiv instant 1000000000
  let nanos := (instant - seconds * 1000000000).toNat
  let days := Int.fdiv seconds 86400
  let ofDay := (seconds - days * 86400).toNat
  let date := dateOfDays days
  let clock :=
    s!"{padded 2 (ofDay / 3600)}:{padded 2 (ofDay / 60 % 60)}:{padded 2 (ofDay % 60)}"
  s!"{writeYear date.year}-{padded 2 date.month}-{padded 2 date.day}T{clock}" ++
    writeFraction nanos ++ "Z"

/-- The instant that a text writes. -/
def read? (text : String) : Option Instant := do
  let (year, rest) ← readYear? text.toList
  let rest ← dropMark? '-' rest
  let (month, rest) ← readPart? rest
  let rest ← dropMark? '-' rest
  let (day, rest) ← readPart? rest
  let rest ←
    match rest with
    | 'T' :: rest | 't' :: rest | ' ' :: rest => some rest
    | _ => none
  let (hour, rest) ← readPart? rest
  let rest ← dropMark? ':' rest
  let (minute, rest) ← readPart? rest
  let rest ← dropMark? ':' rest
  let (second, rest) ← readPart? rest
  let (nanos, rest) ← readFraction? rest
  let (offset, rest) ← readOffset? (Text.trimLeft rest)
  let date : Date := ⟨year, month, day⟩
  if !rest.all Text.isBlank || !date.isValid || 24 ≤ hour || 60 ≤ minute || 60 ≤ second then none
  else
    let seconds : Int := daysOfDate date * 86400 + ((hour * 60 + minute) * 60 + second : Nat)
    some ((seconds - offset) * 1000000000 + nanos)

end Instant

end Acquisition
