import Acquisition.Text.AsciiCase
import Acquisition.Text.Blank

/-!
# Qualities and revisions

A quality is a tier of picture or sound.  Its identity is its number; its name is for display.
The order of the catalogue carries no meaning: which of two qualities is better is a matter of
a profile.

## Main definitions

* `Quality`, `Quality.catalogue`: the tiers and the built-in list of them.
* `Revision`: how often a release was redone; a real fix outranks a version number.
* `QualityModel`: a quality with a revision, what a release or file is worth.
-/

namespace Acquisition

/-! ### Qualities -/

/-- A quality tier. -/
structure Quality where
  /-- The number that identifies the tier. -/
  id : Nat
  /-- The name for display. -/
  name : String
  deriving DecidableEq, Repr, Inhabited

namespace Quality

/-- The two values name the same tier. -/
def same (a b : Quality) : Bool := a.id == b.id

def unknown : Quality := ⟨0, "Unknown"⟩
def sdtv : Quality := ⟨1, "SDTV"⟩
def dvd : Quality := ⟨2, "DVD"⟩
def webdl1080p : Quality := ⟨3, "WEBDL-1080p"⟩
def hdtv720p : Quality := ⟨4, "HDTV-720p"⟩
def webdl720p : Quality := ⟨5, "WEBDL-720p"⟩
def bluray720p : Quality := ⟨6, "Bluray-720p"⟩
def bluray1080p : Quality := ⟨7, "Bluray-1080p"⟩
def webdl480p : Quality := ⟨8, "WEBDL-480p"⟩
def hdtv1080p : Quality := ⟨9, "HDTV-1080p"⟩
def hdtv2160p : Quality := ⟨16, "HDTV-2160p"⟩
def webdl2160p : Quality := ⟨18, "WEBDL-2160p"⟩
def bluray2160p : Quality := ⟨19, "Bluray-2160p"⟩
def remux1080p : Quality := ⟨30, "Remux-1080p"⟩
def remux2160p : Quality := ⟨31, "Remux-2160p"⟩
def mp3 : Quality := ⟨100, "MP3-320"⟩
def flac : Quality := ⟨101, "FLAC"⟩

/-- The built-in tiers. -/
def catalogue : List Quality :=
  [unknown, sdtv, dvd, webdl480p, hdtv720p, webdl720p, bluray720p, hdtv1080p, webdl1080p,
    bluray1080p, remux1080p, hdtv2160p, webdl2160p, bluray2160p, remux2160p, mp3, flac]

/-- The tier says nothing about the release. -/
def isUnknown (q : Quality) : Bool := q.same unknown

/-- The catalogue tier with the number. -/
def ofId? (id : Nat) : Option Quality :=
  catalogue.find? (·.id == id)

/-- The catalogue tier with the name, up to outer blanks and the case of ASCII letters. -/
def ofName? (name : String) : Option Quality :=
  catalogue.find? fun q => Text.equalIgnoringCase q.name (Text.trim name)

end Quality

/-! ### Revisions -/

/-- How often a release was redone. -/
structure Revision where
  /-- One for the first release, more for each redone one. -/
  version : Nat
  /-- How often the name says that this one is the real fix. -/
  real : Nat
  deriving DecidableEq, Repr

namespace Revision

/-- The revision of a first release. -/
def first : Revision := ⟨1, 0⟩

instance : Inhabited Revision := ⟨first⟩

/-- Redone at least once. -/
def isProper (r : Revision) : Bool := 1 < r.version

/-- Marked as the real fix. -/
def isReal (r : Revision) : Bool := 0 < r.real

/-- The mark of a real fix decides, then the version. -/
def cmp (a b : Revision) : Ordering :=
  (compare a.real b.real).then (compare a.version b.version)

end Revision

/-! ### Quality models -/

/-- A quality together with a revision. -/
structure QualityModel where
  quality : Quality
  revision : Revision
  deriving DecidableEq, Repr, Inhabited

namespace QualityModel

/-- A first release of the quality. -/
def of (quality : Quality) : QualityModel := ⟨quality, .first⟩

/-- A first release of unknown quality. -/
def unknown : QualityModel := .of .unknown

/-- The same tier in the same revision. -/
def same (a b : QualityModel) : Bool :=
  a.quality.same b.quality && a.revision == b.revision

/-- The name, the version, and a mark on real fixes. -/
def shown (m : QualityModel) : String :=
  s!"{m.quality.name} v{m.revision.version}" ++ if m.revision.isReal then " REAL" else ""

end QualityModel

end Acquisition
