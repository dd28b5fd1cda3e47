import Acquisition.Name.Release
import Acquisition.Profile
import Acquisition.Release

/-!
# Candidates for an import

A file on the disk bound to the media item that it may be imported for.
-/

namespace Acquisition

/-- A file under evaluation. -/
structure LocalCandidate where
  path : Path
  /-- The size in bytes. -/
  size : UInt64
  quality : QualityModel
  languages : List Language
  /-- What a probe found in the file, if it found anything. -/
  mediaInfo : Option MediaInfo
  /-- The file lies in the folder of the media item already. -/
  existing : Bool
  /-- What the name of the file says, if it could be read. -/
  parsed : Option ParsedRelease
  /-- The release that was grabbed for the file. -/
  release : Option Release
  downloadId : Option String
  media : Media
  profile : Profile
  deriving DecidableEq, Repr, Inhabited

namespace LocalCandidate

/-- The title under which the file came: that of the release, else that of the file name, else
its path. -/
def sourceTitle (candidate : LocalCandidate) : String :=
  (candidate.release.map (·.title) <|> candidate.parsed.map (·.title)).getD candidate.path.text

/-- The group that made the file: the title of the release names it more reliably than the name
of the file. -/
def group (candidate : LocalCandidate) : Option String :=
  candidate.release.bind (fun release => (ParsedRelease.ofTitle release.title).group) <|>
    candidate.parsed.bind (·.group)

/-- The order of files for an import: by quality, then by size. -/
def cmp (a b : LocalCandidate) : Ordering :=
  (a.profile.cmp a.quality b.quality).then (compare a.size b.size)

end LocalCandidate

end Acquisition
