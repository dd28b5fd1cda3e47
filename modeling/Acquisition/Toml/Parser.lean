import Acquisition.Toml.Scalar
import Acquisition.Toml.Table

/-!
# Reading a TOML document

A document is a list of lines: keys with their values, and headers that tell which table the keys
behind them belong to.  Values may be arrays, which may run over several lines, and tables in
braces, which may not.

## Main definitions

* `Toml.parse?`: the table that a document describes, as a value.
-/

namespace Acquisition.Toml

/-! ### Blanks and keys -/

/-- The text behind blanks within a line. -/
def skipBlanks (text : List Char) : List Char := text.dropWhile isLineBlank

/-- A character of a comment. -/
def isCommentChar (c : Char) : Bool := !isControl c

/-- The text behind blanks and a comment. -/
def skipComment (text : List Char) : List Char :=
  match skipBlanks text with
  | '#' :: rest => rest.dropWhile isCommentChar
  | rest => rest

/-- The text behind the rest of a line, which holds nothing but blanks and a comment. -/
def endLine? (text : List Char) : Option (List Char) :=
  match skipComment text with
  | [] => some []
  | rest => dropNewline? rest

/-- The text behind blanks, comments and line breaks. -/
def skipLines : Nat → List Char → List Char
  | 0, text => text
  | fuel + 1, text =>
    match dropNewline? (skipComment text) with
    | some rest => skipLines fuel rest
    | none => skipComment text

/-- The text behind everything that may stand between the items of an array. -/
def skipSpace (text : List Char) : List Char := skipLines text.length text

/-- A character of a key without quotes. -/
def isKeyChar (c : Char) : Bool := c.isAlphanum || c == '_' || c == '-'

/-- One part of a key: bare or in quotes, on one line. -/
def readKeyPart? (text : List Char) : Option (String × List Char) :=
  match text with
  | '"' :: rest => closeString? rest (lineString? '"' 0)
  | '\'' :: rest => closeString? rest (lineString? '\'' 0)
  | _ =>
    match text.span isKeyChar with
    | ([], _) => none
    | (key, rest) => some (String.ofList key, rest)

/-- The parts of a dotted key, of which there are at most a number, and the text behind it and its
blanks. -/
def readParts? : Nat → List Char → Option (List String × List Char)
  | 0, _ => none
  | limit + 1, text =>
    match readKeyPart? (skipBlanks text) with
    | none => none
    | some (part, rest) =>
      match skipBlanks rest with
      | '.' :: rest => (readParts? limit rest).map fun (parts, rest) => (part :: parts, rest)
      | rest => some ([part], rest)

/-- How many parts a key may have, and how deep arrays and tables in braces may stand in one
another. -/
def depthLimit : Nat := 79

/-- The parts of a dotted key, and the text behind it and its blanks. -/
def readKey? (text : List Char) : Option (List String × List Char) :=
  readParts? depthLimit text

/-- A dotted key as its way and its last part. -/
def splitKey? (parts : List String) : Option (List String × String) :=
  parts.getLast?.map (parts.dropLast, ·)

/-! ### Values -/

mutual

/-- A value at the front of a text, in which arrays and tables stand at most `room` deep. -/
def readValue? : Nat → Nat → List Char → Option (Json × List Char)
  | 0, _, _ => none
  | fuel + 1, room, text =>
    match text, room with
    | '[' :: _, 0 | '{' :: _, 0 => none
    | '[' :: rest, room + 1 =>
      (readItems? fuel room rest).map fun (items, rest) => (.arr items, rest)
    | '{' :: rest, room + 1 =>
      match skipBlanks rest with
      | '}' :: rest => some (.obj [], rest)
      | rest => readFields? fuel room [] rest
    | '"' :: _, _ | '\'' :: _, _ => (readString? text).map fun (s, rest) => (.str s, rest)
    | _, _ =>
      let (word, rest) := splitWord text
      (scalar? word).map fun value => (value, rest)

/-- The items of an array up to its closing bracket. -/
def readItems? : Nat → Nat → List Char → Option (List Json × List Char)
  | 0, _, _ => none
  | fuel + 1, room, text =>
    match skipSpace text with
    | ']' :: rest => some ([], rest)
    | text =>
      match readValue? fuel room text with
      | none => none
      | some (item, rest) =>
        match skipSpace rest with
        | ',' :: rest =>
          (readItems? fuel room rest).map fun (items, rest) => (item :: items, rest)
        | ']' :: rest => some ([item], rest)
        | _ => none

/-- The fields of a table up to its closing brace. -/
def readFields? : Nat → Nat → TomlTable → List Char → Option (Json × List Char)
  | 0, _, _, _ => none
  | fuel + 1, room, table, text =>
    match readKey? text with
    | some (parts, '=' :: rest) =>
      match readValue? fuel room (skipBlanks rest), splitKey? parts with
      | some (value, rest), some (way, key) =>
        match table.assign? way key value .opened, skipBlanks rest with
        | some table, ',' :: rest => readFields? fuel room table rest
        | some table, '}' :: rest => some (table.json, rest)
        | _, _ => none
      | _, _ => none
    | _ => none

end

/-! ### Documents -/

/-- A document as far as it was read. -/
structure Document where
  table : TomlTable
  /-- The way to the table that the next keys belong to. -/
  place : List String

/-- Reads a key with its value. -/
def readAssignment? (document : Document) (text : List Char) : Option (Document × List Char) := do
  let (parts, rest) ← readKey? text
  let '=' :: rest := rest | none
  let (value, rest) ← readValue? (2 * rest.length + 2) depthLimit (skipBlanks rest)
  let (way, key) ← splitKey? parts
  let table ← TomlTable.alter? .passed (TomlTable.assign? way key value) document.place .opened
    document.table
  return ({ document with table }, rest)

/-- Reads the header of a table. -/
def readHeader? (document : Document) (text : List Char) : Option (Document × List Char) := do
  let (parts, rest) ← readKey? text
  let ']' :: rest := rest | none
  let (way, key) ← splitKey? parts
  let table ← document.table.open? way key
  return (⟨table, parts⟩, rest)

/-- Reads the header of a table in an array. -/
def readArrayHeader? (document : Document) (text : List Char) :
    Option (Document × List Char) := do
  let (parts, rest) ← readKey? text
  let ']' :: ']' :: rest := rest | none
  let (way, key) ← splitKey? parts
  let table ← document.table.append? way key
  return (⟨table, parts⟩, rest)

/-- Reads the lines of a document. -/
def readLines? : Nat → Document → List Char → Option Document
  | 0, _, _ => none
  | fuel + 1, document, text =>
    match skipSpace text with
    | [] => some document
    | text =>
      let line :=
        match text with
        | '[' :: '[' :: rest => readArrayHeader? document rest
        | '[' :: rest => readHeader? document rest
        | _ => readAssignment? document text
      match line with
      | none => none
      | some (document, rest) =>
        match endLine? rest with
        | none => none
        | some rest => readLines? fuel document rest

/-- The text without a mark of the byte order at its front. -/
def dropMark (text : List Char) : List Char :=
  match text with
  | '\uFEFF' :: rest => rest
  | _ => text

/-- The table that a document describes, as a value. -/
def parse? (text : String) : Option Json :=
  let cs := dropMark text.toList
  (readLines? (cs.length + 1) ⟨[], []⟩ cs).map (·.table.json)

end Acquisition.Toml
