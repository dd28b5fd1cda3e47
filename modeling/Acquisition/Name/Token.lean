import Acquisition.Text.Word

/-!
# Tokens in a name

A release name announces its properties by tokens such as `1080p` or `REPACK`.  A token is a
whole word or a run of whole words: a word boundary stands on either side of it.  Spellings are
compared without regard to case; the Kelvin sign counts as a `k` and the long `s` as an `s`.

## Main definitions

* `Recogniser`: reads one token at the front of a text.
* `Vocabulary`, `Vocabulary.recogniser`: tokens given by a list of spellings.
* `occurrences`: all tokens of a text, from left to right and without overlap.
-/

namespace Acquisition.Name

open Text

/-! ### Spellings -/

/-- `c` is the lower-case ASCII character `letter` up to case. -/
def sameLetter (letter c : Char) : Bool :=
  c.toLower == letter || (letter == 'k' && c == '\u212A') || (letter == 's' && c == '\u017F')

/-- The text behind a spelling at its front, if `same` matches the two character by character. -/
def dropSpelling (same : Char → Char → Bool) : List Char → List Char → Option (List Char)
  | [], text => some text
  | _ :: _, [] => none
  | letter :: spelling, c :: text =>
    if same letter c then dropSpelling same spelling text else none

/-! ### Recognisers -/

/-- Reads a token at the front of a text, given the character before the text: the value of the
token and its length. -/
abbrev Recogniser (α : Type) := Option Char → List Char → Option (α × Nat)

/-- Tokens with their values in order of preference; spellings are in lower case. -/
abbrev Vocabulary (α : Type) := List (String × α)

/-- The first entry whose spelling stands at the front of the text and ends at a boundary. -/
def Vocabulary.find? {α : Type} (same : Char → Char → Bool) (vocabulary : Vocabulary α)
    (text : List Char) : Option (α × Nat) :=
  vocabulary.findSome? fun (spelling, value) =>
    match dropSpelling same spelling.toList text with
    | some rest =>
      if isBoundary spelling.toList.getLast? rest.head? then some (value, spelling.toList.length)
      else none
    | none => none

/-- Reads a token of the vocabulary, in any case. -/
def Vocabulary.recogniser {α : Type} (vocabulary : Vocabulary α) : Recogniser α :=
  fun before text =>
    if isBoundary before text.head? then vocabulary.find? sameLetter text else none

/-- Reads a token of the vocabulary exactly as it is spelled. -/
def Vocabulary.exactRecogniser {α : Type} (vocabulary : Vocabulary α) : Recogniser α :=
  fun before text =>
    if isBoundary before text.head? then vocabulary.find? (· == ·) text else none

/-! ### Occurrences -/

/-- A token found in a text. -/
structure Occurrence (α : Type) where
  /-- The number of characters before the token. -/
  start : Nat
  /-- The value of the token. -/
  value : α
  deriving DecidableEq, Repr, Inhabited

/-- The tokens of a text, where `start` characters came before it, the last of them `before`,
and its first `skip` characters belong to the token found last. -/
def occurrencesFrom {α : Type} (read : Recogniser α) (start skip : Nat) (before : Option Char) :
    List Char → List (Occurrence α)
  | [] => []
  | c :: cs =>
    match skip with
    | skip + 1 => occurrencesFrom read (start + 1) skip (some c) cs
    | 0 =>
      match read before (c :: cs) with
      | some (value, length) =>
        ⟨start, value⟩ :: occurrencesFrom read (start + 1) (length - 1) (some c) cs
      | none => occurrencesFrom read (start + 1) 0 (some c) cs

/-- The tokens of a text from left to right; the search goes on behind each token found. -/
def occurrences {α : Type} (read : Recogniser α) (text : List Char) : List (Occurrence α) :=
  occurrencesFrom read 0 0 none text

/-- The values of the tokens of a text. -/
def values {α : Type} (read : Recogniser α) (text : List Char) : List α :=
  (occurrences read text).map (·.value)

end Acquisition.Name
