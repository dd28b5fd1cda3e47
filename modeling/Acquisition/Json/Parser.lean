import Acquisition.Json.Basic

/-!
# Reading JSON text

`Json.parse?` reads a whole text as one value.  It accepts the grammar of the standard and
nothing more: no trailing commas, no comments, no control characters inside strings.  A string in
which half a surrogate pair is escaped has a place in the grammar but stands for no text; it is read
as a value that nothing can be made of.  Every step consumes a character, so the length of the text
bounds the recursion.
-/

namespace Acquisition.Json

/-! ### Blanks and literals -/

/-- A blank between tokens. -/
def isSpace (c : Char) : Bool :=
  c == ' ' || c == '\t' || c == '\n' || c == '\r'

/-- The text behind its leading blanks. -/
def skipSpace (text : List Char) : List Char :=
  text.dropWhile isSpace

/-- The text behind a fixed word. -/
def dropWord? : List Char → List Char → Option (List Char)
  | [], text => some text
  | c :: word, d :: text => if c == d then dropWord? word text else none
  | _ :: _, [] => none

/-! ### Strings -/

/-- The value of a hexadecimal digit. -/
def hexDigit? (c : Char) : Option Nat :=
  if c.isDigit then some (c.toNat - 48)
  else if 'a' ≤ c && c ≤ 'f' then some (c.toNat - 87)
  else if 'A' ≤ c && c ≤ 'F' then some (c.toNat - 55)
  else none

/-- The number that four hexadecimal digits write. -/
def hexUnit? (a b c d : Char) : Option Nat := do
  let a ← hexDigit? a
  let b ← hexDigit? b
  let c ← hexDigit? c
  let d ← hexDigit? d
  return ((a * 16 + b) * 16 + c) * 16 + d

/-- The character of a one-letter escape. -/
def shortEscape? (c : Char) : Option Char :=
  match c with
  | '"' => some '"'
  | '\\' => some '\\'
  | '/' => some '/'
  | 'b' => some '\x08'
  | 'f' => some '\x0C'
  | 'n' => some '\n'
  | 'r' => some '\r'
  | 't' => some '\t'
  | _ => none

/-- A string that is being read. -/
structure Draft where
  /-- The characters so far, last first. -/
  chars : List Char := []
  /-- The first half of a surrogate pair that waits for the second one. -/
  half : Option Nat := none

namespace Draft

/-- Adds a character; a half that waits for another one has waited in vain. -/
def addChar (draft : Draft) (c : Char) : Option Draft :=
  if draft.half.isNone then some { draft with chars := c :: draft.chars } else none

/-- Adds an escaped unit of UTF-16: a character or half of one. -/
def addUnit (draft : Draft) (unit : Nat) : Option Draft :=
  if 0xD800 ≤ unit && unit < 0xDC00 then
    if draft.half.isNone then some { draft with half := some unit } else none
  else if 0xDC00 ≤ unit && unit < 0xE000 then
    draft.half.map fun high =>
      let code := 0x10000 + (high - 0xD800) * 0x400 + (unit - 0xDC00)
      { chars := Char.ofNat code :: draft.chars }
  else draft.addChar (Char.ofNat unit)

/-- The text that was read. -/
def text? (draft : Draft) : Option String :=
  if draft.half.isNone then some (String.ofList draft.chars.reverse) else none

end Draft

/-- Reads a string behind its opening quote, unless it breaks the grammar.  There is no draft any
more once half a surrogate pair stood alone. -/
def parseString (draft : Option Draft) : List Char → Option (Option String × List Char)
  | [] => none
  | '"' :: rest => some (draft.bind Draft.text?, rest)
  | '\\' :: 'u' :: a :: b :: c :: d :: rest =>
    match hexUnit? a b c d with
    | some unit => parseString (draft.bind (·.addUnit unit)) rest
    | none => none
  | '\\' :: c :: rest =>
    match shortEscape? c with
    | some c => parseString (draft.bind (·.addChar c)) rest
    | none => none
  | c :: rest =>
    if c.toNat < 32 || c == '\\' then none else parseString (draft.bind (·.addChar c)) rest

/-! ### Numbers -/

/-- The number that a run of digits writes. -/
def digitsValue (digits : List Char) : Nat :=
  digits.foldl (fun n c => 10 * n + (c.toNat - 48)) 0

/-- Digits behind a fraction or exponent mark: at least one. -/
def someDigits? (text : List Char) : Option (List Char × List Char) :=
  match text.span Char.isDigit with
  | ([], _) => none
  | split => some split

/-- The part of a number behind its integer digits: its text and the rest. -/
def parseFraction? (text : List Char) : Option (List Char × List Char) := do
  let (fraction, text) ←
    match text with
    | '.' :: rest => (someDigits? rest).map fun (digits, rest) => ('.' :: digits, rest)
    | _ => some ([], text)
  match text with
  | e :: rest =>
    if e == 'e' || e == 'E' then
      let (sign, rest) :=
        match rest with
        | '+' :: rest => (['+'], rest)
        | '-' :: rest => (['-'], rest)
        | _ => ([], rest)
      let (digits, rest) ← someDigits? rest
      return (fraction ++ e :: sign ++ digits, rest)
    else return (fraction, text)
  | [] => return (fraction, text)

/-- Reads a number without its sign. -/
def parseUnsigned? (negative : Bool) (text : List Char) : Option (Json × List Char) := do
  let (digits, rest) ← someDigits? text
  if digits.length > 1 && digits.head? == some '0' then none
  let (fraction, rest) ← parseFraction? rest
  let value := digitsValue digits
  if fraction.isEmpty && !(negative && value == 0) then
    return (.int (if negative then -(value : Int) else value), rest)
  else
    let sign := if negative then ['-'] else []
    return (.decimal (String.ofList (sign ++ digits ++ fraction)), rest)

/-! ### Values -/

mutual

/-- Reads a value at the front of a text. -/
def parseValue : Nat → List Char → Option (Json × List Char)
  | 0, _ => none
  | fuel + 1, text =>
    match skipSpace text with
    | '{' :: rest =>
      match skipSpace rest with
      | '}' :: rest => some (.obj [], rest)
      | rest => (parseFields fuel rest).map fun (fields, rest) => (fields.elim .garbled .obj, rest)
    | '[' :: rest =>
      match skipSpace rest with
      | ']' :: rest => some (.arr [], rest)
      | rest => (parseItems fuel rest).map fun (items, rest) => (.arr items, rest)
    | '"' :: rest => (parseString (some {}) rest).map fun (s, rest) => (s.elim .garbled .str, rest)
    | 't' :: rest => (dropWord? ['r', 'u', 'e'] rest).map fun rest => (.bool true, rest)
    | 'f' :: rest => (dropWord? ['a', 'l', 's', 'e'] rest).map fun rest => (.bool false, rest)
    | 'n' :: rest => (dropWord? ['u', 'l', 'l'] rest).map fun rest => (.null, rest)
    | '-' :: rest => parseUnsigned? true rest
    | rest => parseUnsigned? false rest

/-- Reads the items of an array up to its closing bracket. -/
def parseItems : Nat → List Char → Option (List Json × List Char)
  | 0, _ => none
  | fuel + 1, text =>
    match parseValue fuel text with
    | none => none
    | some (item, rest) =>
      match skipSpace rest with
      | ',' :: rest => (parseItems fuel rest).map fun (items, rest) => (item :: items, rest)
      | ']' :: rest => some ([item], rest)
      | _ => none

/-- Reads the fields of an object up to its closing brace; there are none to tell if one of the names
is no text. -/
def parseFields : Nat → List Char → Option (Option (List (String × Json)) × List Char)
  | 0, _ => none
  | fuel + 1, text =>
    match skipSpace text with
    | '"' :: rest =>
      match parseString (some {}) rest with
      | none => none
      | some (name, rest) =>
        match skipSpace rest with
        | ':' :: rest =>
          match parseValue fuel rest with
          | none => none
          | some (value, rest) =>
            let field := name.map fun name => (name, value)
            match skipSpace rest with
            | ',' :: rest =>
              (parseFields fuel rest).map fun (fields, rest) =>
                (field.bind fun field => fields.map (field :: ·), rest)
            | '}' :: rest => some (field.map ([·]), rest)
            | _ => none
        | _ => none
    | _ => none

end

/-- Reads a whole text as one value. -/
def parse? (text : String) : Option Json :=
  let cs := text.toList
  match parseValue (2 * cs.length + 2) cs with
  | some (value, rest) => if (skipSpace rest).isEmpty then some value else none
  | none => none

end Acquisition.Json
