import Acquisition.Text.AsciiCase
import Acquisition.Toml.Scalar

/-!
# Settings in variables

Variables of the environment set single values.  The name of a variable leads to its value, with
double underscores or dots between the parts; the text of a variable is a truth value, a number, a
list, a table, or, if nothing else, itself.  Only a number with a point has a fraction: `1e5` is a
text.

## Main definitions

* `Variable.way?`: the way to the value that a variable sets.
* `Variable.readValue`: the value that a text stands for.
-/

namespace Acquisition.Variable

/-! ### Names -/

/-- The beginning of the names of variables that set values. -/
def namePrefix : String := "MEDIARR_"

/-- The text with a dot for every double underscore. -/
def dotted : List Char → List Char
  | '_' :: '_' :: rest => '.' :: dotted rest
  | c :: rest => c :: dotted rest
  | [] => []

/-- The way to the value that a variable with the name sets; parts are in lower case and not
empty. -/
def way? (name : String) : Option (List String) :=
  let name := (Text.trim name).toList
  let (front, rest) := name.splitAt namePrefix.length
  if !Text.equalIgnoringCase (String.ofList front) namePrefix then none
  else
    let text := (Text.asciiLower (Text.trim (String.ofList (dotted rest)))).toList
    let parts := (Text.pieces '.' text).map String.ofList
    if parts.any String.isEmpty then none else some parts

/-! ### Texts -/

/-- A blank around a value. -/
def isSpace (c : Char) : Bool :=
  c == ' ' || c == '\t' || c == '\n' || c == '\r' || c == '\x0C'

/-- A mark of lists and tables, at which a plain value ends. -/
def isMark (c : Char) : Bool :=
  c == ',' || c == '{' || c == '}' || c == '[' || c == ']'

/-- A character of a key without quotes. -/
def isKeyChar (c : Char) : Bool := c.isAlphanum || c == '_' || c == '-'

/-- The text behind blanks. -/
def skipSpace (text : List Char) : List Char := text.dropWhile isSpace

/-- A plain value: a number with a point, a whole number of 64 bits, or a text. -/
def plain (text : String) : Json :=
  if text.toList.contains '.' && (Text.readFloat? text).isSome then .decimal text
  else
    match Text.readAnyInt? text with
    | some n => if Int64.minValue.toInt ≤ n && n < UInt64.size then .int n else .str text
    | none => .str text

/-- A string behind its opening quote, with the escapes of a TOML document. -/
def readQuoted? (text : List Char) : Option (String × List Char) :=
  Toml.closeString? text (Toml.lineString? '"' 0)

/-- A key, bare or in quotes, between blanks. -/
def readKey? (text : List Char) : Option (String × List Char) :=
  let key? :=
    match skipSpace text with
    | '"' :: rest => readQuoted? rest
    | text =>
      match text.span isKeyChar with
      | ([], _) => none
      | (key, rest) => some (String.ofList key, rest)
  key?.map fun (key, rest) => (key, skipSpace rest)

/-- The fields without those that another field with the same key follows. -/
def lastOfEach (fields : List (String × Json)) : List (String × Json) :=
  fields.foldr (fun field rest =>
    if rest.any (·.1 == field.1) then rest else field :: rest) []

mutual

/-- A value at the front of a text, between blanks.  What begins like a truth value is one. -/
def parseValue : Nat → List Char → Option (Json × List Char)
  | 0, _ => none
  | fuel + 1, text =>
    let read : Option (Json × List Char) :=
      match skipSpace text with
      | 't' :: 'r' :: 'u' :: 'e' :: rest => some (.bool true, rest)
      | 'f' :: 'a' :: 'l' :: 's' :: 'e' :: rest => some (.bool false, rest)
      | '[' :: rest => (parseItems fuel rest).map fun (items, rest) => (Json.arr items, rest)
      | '{' :: rest =>
        (parseFields fuel rest).map fun (fields, rest) => (Json.obj (lastOfEach fields), rest)
      | '"' :: rest => (readQuoted? rest).map fun (s, rest) => (.str s, rest)
      | '\'' :: c :: '\'' :: rest => some (.str (String.singleton c), rest)
      | '\'' :: _ => none
      | rest =>
        let (word, rest) := rest.span (!isMark ·)
        some (plain (Text.trim (String.ofList word)), rest)
    read.map fun (value, rest) => (value, skipSpace rest)

/-- The items of a list up to its closing bracket, which may follow a comma at once. -/
def parseItems : Nat → List Char → Option (List Json × List Char)
  | 0, _ => none
  | fuel + 1, text =>
    match text with
    | ']' :: rest => some ([], rest)
    | text =>
      match parseValue fuel text with
      | some (item, ',' :: rest) =>
        (parseItems fuel rest).map fun (items, rest) => (item :: items, rest)
      | some (item, ']' :: rest) => some ([item], rest)
      | _ => none

/-- The fields of a table up to its closing brace, which may follow a comma at once. -/
def parseFields : Nat → List Char → Option (List (String × Json) × List Char)
  | 0, _ => none
  | fuel + 1, text =>
    match text with
    | '}' :: rest => some ([], rest)
    | text =>
      match readKey? text with
      | some (key, '=' :: rest) =>
        match parseValue fuel rest with
        | some (value, ',' :: rest) =>
          (parseFields fuel rest).map fun (fields, rest) => ((key, value) :: fields, rest)
        | some (value, '}' :: rest) => some ([(key, value)], rest)
        | _ => none
      | _ => none

end

/-- The value that the text of a variable stands for. -/
def readValue (text : String) : Json :=
  let cs := text.toList
  match parseValue (2 * cs.length + 2) cs with
  | some (value, []) => value
  | _ => .str text

end Acquisition.Variable
