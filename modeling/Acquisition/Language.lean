/-!
# Languages

The languages that a release name can announce.
-/

namespace Acquisition

/-- A language of a release. -/
inductive Language
  | unknown
  | english
  | french
  | german
  | spanish
  | italian
  | japanese
  | dutch
  | portuguese
  | russian
  deriving DecidableEq, Repr, Inhabited

namespace Language

/-- All languages, in the order in which they sort. -/
def all : List Language :=
  [unknown, english, french, german, spanish, italian, japanese, dutch, portuguese, russian]

/-- The name for display. -/
def name : Language → String
  | unknown => "Unknown"
  | english => "English"
  | french => "French"
  | german => "German"
  | spanish => "Spanish"
  | italian => "Italian"
  | japanese => "Japanese"
  | dutch => "Dutch"
  | portuguese => "Portuguese"
  | russian => "Russian"

/-- The word that stands for the language in stored data. -/
def key : Language → String
  | unknown => "unknown"
  | english => "english"
  | french => "french"
  | german => "german"
  | spanish => "spanish"
  | italian => "italian"
  | japanese => "japanese"
  | dutch => "dutch"
  | portuguese => "portuguese"
  | russian => "russian"

/-- The language that the word stands for. -/
def ofKey? (key : String) : Option Language :=
  all.find? (·.key == key)

end Language

end Acquisition
