import Acquisition.Release
import Acquisition.Text.AsciiCase

/-!
# The blocklist

Releases and downloads that must never be grabbed again for a media item.  An entry knows its
release by the guid, by the number of the download, or by title and indexer.
-/

namespace Acquisition

/-- A blocked release or download. -/
structure BlockEntry where
  mediaId : MediaId
  sourceTitle : String
  indexer : Option String
  protocol : Option Protocol
  quality : QualityModel
  guid : Option String
  downloadId : Option String
  date : Instant
  message : String
  deriving DecidableEq, Repr, Inhabited

namespace BlockEntry

/-- Blocks a release that no client has been given. -/
def ofRelease (mediaId : MediaId) (release : Release) (quality : QualityModel) (message : String)
    (now : Instant) : BlockEntry where
  mediaId
  sourceTitle := release.title
  indexer := some release.indexer
  protocol := some release.protocol
  quality
  guid := some release.guid
  downloadId := release.infoHash
  date := now
  message

/-- Blocks a download that a client knows. -/
def ofDownload (mediaId : MediaId) (sourceTitle : String) (indexer : Option String)
    (protocol : Protocol) (quality : QualityModel) (downloadId message : String) (now : Instant) :
    BlockEntry where
  mediaId
  sourceTitle
  indexer
  protocol := some protocol
  quality
  guid := none
  downloadId := some downloadId
  date := now
  message

/-- The entry names the same download as the info hash of the release. -/
def sharesHash (entry : BlockEntry) (release : Release) : Bool :=
  match entry.downloadId, release.infoHash with
  | some blocked, some hash => Text.equalIgnoringCase blocked hash
  | _, _ => false

/-- The entry blocks the release for the media item. -/
def blocks (entry : BlockEntry) (mediaId : MediaId) (release : Release) : Bool :=
  entry.mediaId == mediaId &&
    (entry.guid == some release.guid || entry.sharesHash release ||
      (Text.equalIgnoringCase entry.sourceTitle release.title &&
        entry.indexer == some release.indexer))

end BlockEntry

/-- The entries in the order in which they were added. -/
abbrev Blocklist := List BlockEntry

/-- Some entry blocks the release for the media item. -/
def Blocklist.blocks (blocklist : Blocklist) (mediaId : MediaId) (release : Release) : Bool :=
  blocklist.any (·.blocks mediaId release)

end Acquisition
