import Acquisition.Name.Vocabulary
import Acquisition.Path
import Acquisition.Quality
import Acquisition.Text.Blank

/-!
# Reading release names

A release name holds the title of the work, then a year, then tokens, and often ends in a dash
and the name of the group that made the release.  Dots and underscores stand for spaces.  A file
name may end in a media extension, which says something about the quality when no token does.

## Main definitions

* `ParsedRelease.ofTitle`: all that a name says.
* `ParsedRelease.ofPath?`: all that the name of a file says.
* `qualityOfTitle`: only the quality model.
-/

namespace Acquisition

/-- What a release name says. -/
structure ParsedRelease where
  /-- The name as it was read. -/
  title : String
  /-- The title of the work. -/
  mediaTitle : Option String
  year : Option Nat
  quality : QualityModel
  languages : List Language
  /-- The group that made the release. -/
  group : Option String
  deriving DecidableEq, Repr, Inhabited

namespace Name

open Text

/-! ### Extensions -/

/-- The media extensions and the quality of a file whose name says nothing else. -/
def extensionQualities : List (String × Quality) :=
  [("avi", .sdtv), ("divx", .sdtv), ("wmv", .sdtv), ("mpg", .sdtv), ("mpeg", .sdtv),
    ("3gp", .sdtv), ("flv", .sdtv), ("ogm", .sdtv), ("rm", .sdtv), ("m2ts", .sdtv),
    ("ts", .sdtv), ("vob", .dvd), ("iso", .dvd), ("img", .dvd), ("mkv", .hdtv720p),
    ("mp4", .hdtv720p), ("m4v", .hdtv720p), ("mov", .hdtv720p), ("webm", .webdl480p),
    ("flac", .flac), ("mp3", .mp3)]

/-- The quality that a media extension stands for, in any case. -/
def extensionQuality? (extension : List Char) : Option Quality :=
  (extensionQualities.find? fun (known, _) =>
    known.toList == extension.map Char.toLower).map (·.2)

/-- The parts of a text before and after its last occurrence of `c`. -/
def splitLast? (c : Char) (text : List Char) : Option (List Char × List Char) :=
  match text.reverse.span (· != c) with
  | (_, []) => none
  | (after, _ :: before) => some (before.reverse, after.reverse)

/-- A title without its media extension, and the quality that the extension stands for. -/
def splitExtension (title : List Char) : List Char × Option Quality :=
  match splitLast? '.' title with
  | some (stem, extension) =>
    match extensionQuality? extension with
    | some quality => (stem, some quality)
    | none => (title, none)
  | none => (title, none)

/-! ### Normal form -/

/-- A name with single spaces between its words, where dots and underscores are spaces too. -/
def normalize (text : List Char) : List Char :=
  let spaced := text.map fun c => if c == '.' || c == '_' then ' ' else c
  (words spaced).intersperse [' '] |>.flatten

/-! ### Quality -/

/-- The source: the last one named, but a remux is named beside the disc it was taken from and
wins over it. -/
def source? (text : List Char) : Option Source :=
  (values sources.recogniser text).foldl
    (fun found source => if found == some .remux then found else some source) none

/-- The first resolution named. -/
def resolution? (text : List Char) : Option Resolution :=
  (values resolutions.recogniser text).head?

/-- The quality of a picture, from its source and its resolution. -/
def pictureQuality? : Option Source → Option Resolution → Option Quality
  | some .remux, some .r2160 => some .remux2160p
  | some .remux, _ => some .remux1080p
  | some .bluray, some .r2160 => some .bluray2160p
  | some .bluray, some .r1080 => some .bluray1080p
  | some .bluray, some .r720 => some .bluray720p
  | some .bluray, _ => some .dvd
  | some .web, some .r2160 => some .webdl2160p
  | some .web, some .r1080 => some .webdl1080p
  | some .web, some .r720 => some .webdl720p
  | some .web, _ => some .webdl480p
  | some .hdtv, some .r2160 => some .hdtv2160p
  | some .hdtv, some .r1080 => some .hdtv1080p
  | some .hdtv, some .r720 => some .hdtv720p
  | some .hdtv, _ => some .sdtv
  | some .dvd, _ => some .dvd
  | some .sdtv, _ => some .sdtv
  | none, some .r2160 => some .hdtv2160p
  | none, some .r1080 => some .hdtv1080p
  | none, some .r720 => some .hdtv720p
  | none, some .r480 => some .sdtv
  | none, none => none

/-- The quality of a release that is sound only. -/
def audioQuality? (text : List Char) : Option Quality :=
  match (values audios.recogniser text).head? with
  | some .flac => some .flac
  | some .mp3 => some .mp3
  | none => none

/-- The quality that a normalised name announces; the extension decides when no token does. -/
def detectQuality (text : List Char) (extension : Option Quality) : Quality :=
  (pictureQuality? (source? text) (resolution? text)).getD
    ((audioQuality? text).getD (extension.getD .unknown))

/-! ### Revision, languages, group -/

/-- The revision that a name announces. -/
def detectRevision (text : List Char) : Revision :=
  let redoneVersion := if (values redone.recogniser text).isEmpty then 1 else 2
  { version := (values versions.recogniser text).head?.getD redoneVersion
    real := (values realFix.exactRecogniser text).length }

/-- The languages that a name announces, each once; English when it announces none. -/
def detectLanguages (text : List Char) : List Language :=
  match (values languages.recogniser text).eraseDups with
  | [] => [.english]
  | found => found

/-- The group behind the last dash, unless that dash is the one of `WEB-DL`. -/
def detectGroup? (stem : List Char) : Option String :=
  match splitLast? '-' (trimChars stem) with
  | some (_, group) =>
    if 2 ≤ group.length && group.length ≤ 32 && group.all Char.isAlphanum &&
        group.map Char.toLower != ['d', 'l'] then
      some (String.ofList group)
    else none
  | none => none

end Name

/-! ### Names of releases and files -/

open Text Name

/-- The quality model that a release or file title announces. -/
def qualityOfTitle (title : String) : QualityModel :=
  let (stem, extension) := splitExtension title.toList
  { quality := detectQuality (normalize stem) extension
    revision := detectRevision title.toList }

namespace ParsedRelease

/-- Reads a release title or a file name. -/
def ofTitle (title : String) : ParsedRelease :=
  let (stem, extension) := splitExtension title.toList
  let text := normalize stem
  let years := occurrences Name.year text
  { title
    mediaTitle := years.head?.bind fun first =>
      match trimChars (text.take first.start) with
      | [] => none
      | work => some (String.ofList work)
    year := (years.filterMap (·.value)).getLast?
    quality := { quality := detectQuality text extension, revision := detectRevision stem }
    languages := detectLanguages text
    group := detectGroup? stem }

/-- Reads the name of the file at a path; a path without a name, or with a blank one, says
nothing. -/
def ofPath? (path : Path) : Option ParsedRelease :=
  match path.fileName? with
  | some name => if isBlankText name then none else some (ofTitle name)
  | none => none

end ParsedRelease

end Acquisition
