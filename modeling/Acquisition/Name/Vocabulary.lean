import Acquisition.Name.Token
import Acquisition.Text.Digit
import Acquisition.Language

/-!
# The vocabulary of release names

The tokens by which a release name announces where it was taken from, its resolution, its sound,
its languages, its revision and the year of the work.
-/

namespace Acquisition.Name

open Text

/-! ### Picture and sound -/

/-- What a release was taken from. -/
inductive Source
  | remux
  | bluray
  | web
  | hdtv
  | dvd
  | sdtv
  deriving DecidableEq, Repr, Inhabited

/-- The height of the picture. -/
inductive Resolution
  | r480
  | r720
  | r1080
  | r2160
  deriving DecidableEq, Repr, Inhabited

/-- The coding of a release that is sound only. -/
inductive Audio
  | flac
  | mp3
  deriving DecidableEq, Repr, Inhabited

def sources : Vocabulary Source :=
  [("remux", .remux),
    ("blu-ray", .bluray), ("bluray", .bluray), ("bdrip", .bluray), ("brrip", .bluray),
    ("bd25", .bluray), ("bd50", .bluray),
    ("web-dl", .web), ("webdl", .web), ("webrip", .web), ("web", .web), ("amzn", .web),
    ("nf", .web),
    ("hdtv", .hdtv),
    ("dvdrip", .dvd), ("dvd-r", .dvd), ("dvdr", .dvd), ("dvd", .dvd),
    ("sdtv", .sdtv), ("pdtv", .sdtv), ("tvrip", .sdtv)]

def resolutions : Vocabulary Resolution :=
  [("2160p", .r2160), ("4k", .r2160), ("uhd", .r2160), ("1080p", .r1080), ("1080i", .r1080),
    ("720p", .r720), ("480p", .r480), ("576p", .r480)]

def audios : Vocabulary Audio :=
  [("flac", .flac), ("mp3", .mp3), ("320kbps", .mp3), ("320k", .mp3)]

/-! ### Languages -/

def languages : Vocabulary Language :=
  [("french", .french), ("vff", .french), ("truefrench", .french), ("german", .german),
    ("spanish", .spanish), ("castellano", .spanish), ("italian", .italian), ("ita", .italian),
    ("japanese", .japanese), ("jap", .japanese), ("dutch", .dutch), ("nl", .dutch),
    ("portuguese", .portuguese), ("russian", .russian), ("rus", .russian)]

/-! ### Revisions -/

/-- The words that announce a release that was redone. -/
def redone : Vocabulary Unit :=
  [("proper", ()), ("repack", ()), ("rerip", ())]

/-- The version numbers. -/
def versions : Vocabulary Nat :=
  [("v2", 2), ("v3", 3), ("v4", 4)]

/-- The mark of a real fix, which counts in upper case only: `Real` is mostly part of a title. -/
def realFix : Vocabulary Unit :=
  [("REAL", ())]

/-! ### Years -/

/-- The number that four characters write in ASCII digits. -/
def yearOfDigits? (digits : List Char) : Option Nat :=
  if digits.all Char.isDigit then
    some (digits.foldl (fun n c => 10 * n + (c.toNat - 48)) 0)
  else none

/-- Reads a year: `19` or `20` and two digits.  The digits may be those of any script, but only
ASCII digits give the year a value. -/
def year : Recogniser (Option Nat) := fun before text =>
  match text with
  | a :: b :: c :: d :: rest =>
    if isBoundary before (some a) && ((a == '1' && b == '9') || (a == '2' && b == '0')) &&
        isDecimalDigit c && isDecimalDigit d && isBoundary (some d) rest.head? then
      some (yearOfDigits? [a, b, c, d], 4)
    else none
  | _ => none

end Acquisition.Name
