import Acquisition.Language
import Acquisition.Path
import Acquisition.Quality
import Acquisition.Tag
import Acquisition.Time.Span

/-!
# Media and their files

A media item is a work that the library wants: it has a folder, a profile that ranks the
qualities it may come in, and at most one file.
-/

namespace Acquisition

/-- The number of a media item, below 2 ^ 128. -/
abbrev MediaId := Nat

/-- The number of a file in the library, below 2 ^ 128. -/
abbrev MediaFileId := Nat

/-- The number of a profile. -/
abbrev ProfileId := Nat

/-- A file in the library. -/
structure MediaFile where
  id : MediaFileId
  mediaId : MediaId
  path : Path
  /-- The size in bytes. -/
  size : UInt64
  quality : QualityModel
  languages : List Language
  /-- The group that made the release which the file came from. -/
  group : Option String
  added : Instant
  deriving DecidableEq, Repr, Inhabited

/-- A work that the library wants. -/
structure Media where
  id : MediaId
  title : String
  year : Option Nat
  /-- The folder that the files of the item live in. -/
  path : Path
  profileId : ProfileId
  tags : Tags
  /-- Releases are looked for. -/
  monitored : Bool
  file : Option MediaFile
  deriving DecidableEq, Repr, Inhabited

/-- What a probe found inside a media file. -/
structure MediaInfo where
  audioStreams : Nat
  videoCodec : Option String
  audioCodec : Option String
  runSeconds : Option Nat
  deriving DecidableEq, Repr, Inhabited

end Acquisition
