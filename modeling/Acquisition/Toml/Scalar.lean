import Acquisition.Json.Parser
import Acquisition.Text.Decimal
import Acquisition.Text.Split
import Acquisition.Time.Calendar

/-!
# Strings and numbers of a TOML document

Strings stand in single or double quotes, on one line or between three quotes on several; escapes
have a meaning in double quotes only.  Numbers may have underscores between their digits.

## Main definitions

* `readString?`: a string with its quotes.
* `scalar?`: the value that a word stands for.
-/

namespace Acquisition.Toml

/-! ### Strings -/

/-- A character that must not stand unescaped in a string on one line. -/
def isControl (c : Char) : Bool :=
  (c.toNat < 32 && c != '\t') || c.toNat == 127

/-- The character of a code point. -/
def charOf? (code : Nat) : Option Char :=
  if code < 0xD800 || (0xE000 ≤ code && code < 0x110000) then some (Char.ofNat code) else none

/-- The character that hexadecimal digits number. -/
def hexChar? (digits : List Char) : Option Char :=
  (digits.foldlM (fun n c => (Json.hexDigit? c).map (16 * n + ·)) 0).bind charOf?

/-- The character of an escape, and how many characters stand for it behind the backslash. -/
def escape? (text : List Char) : Option (Char × Nat) :=
  match text with
  | 'b' :: _ => some ('\x08', 1)
  | 't' :: _ => some ('\t', 1)
  | 'n' :: _ => some ('\n', 1)
  | 'f' :: _ => some ('\x0C', 1)
  | 'r' :: _ => some ('\r', 1)
  | '"' :: _ => some ('"', 1)
  | '\\' :: _ => some ('\\', 1)
  | 'u' :: rest => if rest.length < 4 then none else (hexChar? (rest.take 4)).map (·, 5)
  | 'U' :: rest => if rest.length < 8 then none else (hexChar? (rest.take 8)).map (·, 9)
  | _ => none

/-- A blank within a line. -/
def isLineBlank (c : Char) : Bool := c == ' ' || c == '\t'

/-- The text behind a line break at its front. -/
def dropNewline? : List Char → Option (List Char)
  | '\n' :: rest => some rest
  | '\r' :: '\n' :: rest => some rest
  | _ => none

/-- How many characters at the front of a text are blanks or line breaks. -/
def blankLength : List Char → Nat
  | '\r' :: '\n' :: rest => blankLength rest + 2
  | c :: rest => if isLineBlank c || c == '\n' then blankLength rest + 1 else 0
  | [] => 0

/-- The number of blanks and line breaks at the front of a text, if it is a backslash at the end
of a line that they follow. -/
def foldedBlanks? (text : List Char) : Option Nat :=
  (dropNewline? (text.dropWhile isLineBlank)).map fun _ => blankLength text

/-- How many quotes stand at the front of a text. -/
def countQuotes (quote : Char) (text : List Char) : Nat :=
  (text.takeWhile (· == quote)).length

/-- The characters of a string on one line and how many characters they take with the closing
quote; `skip` counts those that belong to an escape. -/
def lineString? (quote : Char) (skip : Nat) : List Char → Option (List Char × Nat)
  | [] => none
  | c :: rest =>
    if 0 < skip then (lineString? quote (skip - 1) rest).map fun (s, n) => (s, n + 1)
    else if c == quote then some ([], 1)
    else if c == '\\' && quote == '"' then
      match escape? rest with
      | some (e, length) =>
        (lineString? quote length rest).map fun (s, n) => (e :: s, n + 1)
      | none => none
    else if isControl c then none
    else (lineString? quote 0 rest).map fun (s, n) => (c :: s, n + 1)

/-- The characters of a string on several lines and how many characters they take with the
closing quotes; up to two quotes may stand before these. -/
def blockString? (quote : Char) (skip : Nat) : List Char → Option (List Char × Nat)
  | [] => none
  | c :: rest =>
    if 0 < skip then (blockString? quote (skip - 1) rest).map fun (s, n) => (s, n + 1)
    else
      let quotes := countQuotes quote (c :: rest)
      if 3 ≤ quotes then
        if quotes ≤ 5 then some (List.replicate (quotes - 3) quote, quotes) else none
      else if c == '\\' && quote == '"' then
        match escape? rest, foldedBlanks? rest with
        | some (e, length), _ =>
          (blockString? quote length rest).map fun (s, n) => (e :: s, n + 1)
        | none, some length =>
          (blockString? quote length rest).map fun (s, n) => (s, n + 1)
        | none, none => none
      else if c == '\r' && rest.head? == some '\n' then
        (blockString? quote 1 rest).map fun (s, n) => ('\n' :: s, n + 1)
      else if isControl c && c != '\n' then none
      else (blockString? quote 0 rest).map fun (s, n) => (c :: s, n + 1)

/-- A string behind its opening quotes, and the text behind it. -/
def closeString? (text : List Char) (read : List Char → Option (List Char × Nat)) :
    Option (String × List Char) :=
  (read text).map fun (s, n) => (String.ofList s, text.drop n)

/-- A string with its quotes. -/
def readString? (text : List Char) : Option (String × List Char) :=
  match text with
  | '"' :: '"' :: '"' :: rest =>
    closeString? ((dropNewline? rest).getD rest) (blockString? '"' 0)
  | '\'' :: '\'' :: '\'' :: rest =>
    closeString? ((dropNewline? rest).getD rest) (blockString? '\'' 0)
  | '"' :: rest => closeString? rest (lineString? '"' 0)
  | '\'' :: rest => closeString? rest (lineString? '\'' 0)
  | _ => none

/-! ### Numbers, dates and truth values -/

/-- Digits without the underscores between them. -/
def ungroup? (isDigit : Char → Bool) (text : List Char) : Option (List Char) :=
  let groups := Text.pieces '_' text
  if groups.all fun group => !group.isEmpty && group.all isDigit then some groups.flatten else none

/-- The value of digits in a base. -/
def valueIn (base : Nat) (digits : List Char) : Nat :=
  digits.foldl (fun n c => base * n + (Json.hexDigit? c).getD 0) 0

/-- The digits of a whole number without leading zeros. -/
def wholeDigits? (text : List Char) : Option (List Char) :=
  (ungroup? Char.isDigit text).filter fun digits =>
    digits.length == 1 || digits.head? != some '0'

/-- A whole number of 64 bits, in base ten with a sign, or in another base behind its mark. -/
def integer? (text : List Char) : Option Int :=
  let value? : Option Int :=
    match text with
    | '0' :: 'x' :: digits =>
      (ungroup? (fun c => (Json.hexDigit? c).isSome) digits).map fun ds => (valueIn 16 ds : Int)
    | '0' :: 'o' :: digits =>
      (ungroup? (fun c => '0' ≤ c && c ≤ '7') digits).map fun ds => (valueIn 8 ds : Int)
    | '0' :: 'b' :: digits =>
      (ungroup? (fun c => c == '0' || c == '1') digits).map fun ds => (valueIn 2 ds : Int)
    | _ =>
      let (negative, digits) := Text.splitSign text
      (wholeDigits? digits).map fun ds =>
        if negative then -(valueIn 10 ds : Int) else (valueIn 10 ds : Int)
  value?.filter fun n => Int64.minValue.toInt ≤ n && n ≤ Int64.maxValue.toInt

/-- The exponent behind a number: nothing, or a mark, a sign and digits. -/
def exponentOk (text : List Char) : Bool :=
  match text with
  | [] => true
  | mark :: rest =>
    (mark == 'e' || mark == 'E') && (ungroup? Char.isDigit (Text.splitSign rest).2).isSome

/-- A number with a fraction, an exponent or both, or a word for one that is none. -/
def isFloat (text : List Char) : Bool :=
  let unsigned := (Text.splitSign text).2
  let (whole, rest) := unsigned.span fun c => c.isDigit || c == '_'
  unsigned == "inf".toList || unsigned == "nan".toList ||
    ((wholeDigits? whole).isSome &&
      match rest with
      | '.' :: rest =>
        let (fraction, rest) := rest.span fun c => c.isDigit || c == '_'
        (ungroup? Char.isDigit fraction).isSome && exponentOk rest
      | [] => false
      | rest => exponentOk rest)

/-- The number is too large to be one; below zero there is no limit. -/
def isTooLarge (text : List Char) : Bool :=
  let (negative, unsigned) := Text.splitSign text
  match Text.readScientific? (unsigned.filter (· != '_')) with
  | some (digits, exponent) => !negative && Text.isInfinite digits exponent
  | none => false

/-- A day of the calendar. -/
def dateOk (text : List Char) : Bool :=
  match Text.pieces '-' text with
  | [year, month, day] =>
    year.length == 4 && month.length == 2 && day.length == 2 &&
      [year, month, day].all (·.all Char.isDigit) &&
      Calendar.Date.isValid ⟨valueIn 10 year, valueIn 10 month, valueIn 10 day⟩
  | _ => false

/-- A number of two digits up to a limit. -/
def twoDigitsOk (limit : Nat) (text : List Char) : Bool :=
  text.length == 2 && text.all Char.isDigit && valueIn 10 text ≤ limit

/-- A time of day, which may have a fraction of a second. -/
def timeOk (text : List Char) : Bool :=
  match Text.pieces ':' text with
  | [hour, minute, second] =>
    let fractionOk :=
      match second.drop 2 with
      | [] => true
      | '.' :: digits => !digits.isEmpty && digits.all Char.isDigit
      | _ => false
    twoDigitsOk 23 hour && twoDigitsOk 59 minute && twoDigitsOk 60 (second.take 2) && fractionOk
  | _ => false

/-- An offset from Greenwich. -/
def offsetOk (text : List Char) : Bool :=
  match text with
  | ['Z'] | ['z'] => true
  | sign :: rest =>
    (sign == '+' || sign == '-') &&
      match Text.pieces ':' rest with
      | [hour, minute] => twoDigitsOk 23 hour && twoDigitsOk 59 minute
      | _ => false
  | [] => false

/-- A time of day with or without an offset. -/
def clockOk (text : List Char) : Bool :=
  let (time, offset) := text.span fun c => c.isDigit || c == ':' || c == '.'
  timeOk time && (offset.isEmpty || offsetOk offset)

/-- A date, a time of day without an offset, or both. -/
def isInstant (text : List Char) : Bool :=
  let (date, rest) := text.splitAt 10
  timeOk text ||
    (dateOk date &&
      match rest with
      | [] => true
      | mark :: clock => (mark == 'T' || mark == 't' || mark == ' ') && clockOk clock)

/-- The value that a word stands for. -/
def scalar? (word : List Char) : Option Json :=
  if word == "true".toList then some (.bool true)
  else if word == "false".toList then some (.bool false)
  else
    match integer? word with
    | some n => some (.int n)
    | none =>
      if isFloat word then
        if isTooLarge word then none else some (.decimal (String.ofList word))
      else if isInstant word then some (.obj [("instant", .str (String.ofList word))])
      else none

/-- A character of a word that stands for a value. -/
def isWordChar (c : Char) : Bool :=
  c.isAlphanum || c == '_' || c == '+' || c == '-' || c == '.' || c == ':'

/-- A word at the front of a text, and the text behind it; a date and a time of day may have a
space between them. -/
def splitWord (text : List Char) : List Char × List Char :=
  let (word, rest) := text.span isWordChar
  match rest with
  | ' ' :: d :: more =>
    if dateOk word && d.isDigit then
      let (clock, rest) := (d :: more).span isWordChar
      (word ++ ' ' :: clock, rest)
    else (word, rest)
  | _ => (word, rest)

end Acquisition.Toml
