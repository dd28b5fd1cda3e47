import Acquisition.Name.Release
import Acquisition.ProfileStore

/-!
# Candidates for a grab

A release bound to the media item that it may be grabbed for.
-/

namespace Acquisition

/-- A release under evaluation. -/
structure GrabCandidate where
  release : Release
  parsed : ParsedRelease
  media : Media
  profile : Profile
  /-- The number under which a client may know the release already. -/
  downloadId : Option String
  deriving DecidableEq, Repr, Inhabited

namespace GrabCandidate

/-- Reads the title of a release and binds the release to a media item and its profile. -/
def build (release : Release) (media : Media) (store : ProfileStore) :
    Except ConfigError GrabCandidate := do
  let profile ← store.profile media.profileId
  return {
    release
    parsed := .ofTitle release.title
    media
    profile
    downloadId := release.infoHash }

/-- The quality model that the release announces. -/
def quality (candidate : GrabCandidate) : QualityModel :=
  candidate.parsed.quality

/-- The number that the release is or would be known by. -/
def knownId? (candidate : GrabCandidate) : Option String :=
  candidate.downloadId <|> candidate.release.infoHash

end GrabCandidate

end Acquisition
