import Acquisition.Queue.Pending

/-!
# The queue

The queue shows downloads and pending releases side by side.

## Main definitions

* `QueueItem`: an item of the queue, from a download or a pending release.
* `QueueItem.progress`: how much of it is done, in percent.
* `QueueItem.list`: the whole queue.
-/

namespace Acquisition

/-- An item of the queue. -/
structure QueueItem where
  id : QueueItemId
  downloadId : Option String
  title : String
  mediaId : Option MediaId
  quality : QualityModel
  languages : List Language
  protocol : Protocol
  indexer : Option String
  client : Option String
  status : QueueStatus
  state : Option TrackedState
  size : UInt64
  left : UInt64
  timeLeft : Option Span
  /-- When the item is expected to be done. -/
  expected : Option Instant
  added : Option Instant
  message : Option String
  outputPath : Option Path
  deriving DecidableEq, Repr, Inhabited

namespace QueueItem

/-- How much of the item is done, in percent; an item without a size has nothing done. -/
def progress (item : QueueItem) : Float :=
  if item.size == 0 then 0.0
  else 100.0 - (item.left.toFloat / item.size.toFloat * 100.0)

/-- A download as an item of the queue. -/
def ofDownload (now : Instant) (download : TrackedDownload) : QueueItem where
  id := download.id
  downloadId := some download.item.downloadId
  title := download.item.title
  mediaId := download.mediaId
  quality := download.quality
  languages := download.languages
  protocol := download.protocol
  indexer := download.indexer
  client := some download.client
  status := download.status
  state := some download.state
  size := download.item.size
  left := download.item.left
  timeLeft := download.item.timeLeft
  expected := download.item.timeLeft.map (now + ·)
  added := some download.added
  message := download.item.message
  outputPath := download.item.outputPath

/-- A pending release as an item of the queue. -/
def ofPending (store : ProfileStore) (now : Instant) (pending : PendingRelease) : QueueItem :=
  let candidate := pending.candidate
  let releaseTime := pending.releaseTime store
  { id := pending.id
    downloadId := none
    title := candidate.release.title
    mediaId := some candidate.media.id
    quality := candidate.parsed.quality
    languages := candidate.parsed.languages
    protocol := candidate.release.protocol
    indexer := some candidate.release.indexer
    client := none
    status := .delay
    state := none
    size := candidate.release.size
    left := candidate.release.size
    timeLeft := some (max (releaseTime - now) 0)
    expected := some releaseTime
    added := some pending.added
    message := some pending.rejection.message
    outputPath := none }

/-- The visible downloads, then the pending releases. -/
def list (store : ProfileStore) (now : Instant) (tracked : TrackedDownloads)
    (pending : PendingReleases) : List QueueItem :=
  tracked.visible.map (ofDownload now) ++ pending.releases.map (ofPending store now)

end QueueItem

end Acquisition
