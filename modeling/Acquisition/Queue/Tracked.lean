import Acquisition.Client.Basic
import Acquisition.Grab.Rules
import Acquisition.Name.Release
import Acquisition.Text.Lowercase

/-!
# Tracked downloads

Every download that a client ever reported is tracked until it is given up: its status follows
the polls of the client, and its origin is looked up in the history when it is first seen.  A
download that a client no longer reports is marked as deleted.

## Main definitions

* `TrackedDownload`: a download with what is known about it.
* `TrackedDownloads.applyPoll`: takes in what a client reported.
* `TrackedDownloads.setState`, `TrackedDownloads.stopTracking`: changes from outside.
* `TrackedDownloads.queuedFor`: what the queue holds for a media item.
-/

namespace Acquisition

/-- The identifier of an item of the queue. -/
inductive QueueItemId
  /-- The identifier of a download, by the order in which downloads were first seen. -/
  | download (serial : Nat)
  /-- The identifier of a pending release, by the order in which releases were set aside. -/
  | pending (serial : Nat)
  /-- An identifier that came from outside; no item has it. -/
  | written (number : Nat)
  deriving DecidableEq, Repr, Inhabited

/-! ### Downloads -/

/-- A download that is tracked. -/
structure TrackedDownload where
  id : QueueItemId
  client : String
  protocol : Protocol
  /-- The last report of the client. -/
  item : DownloadItem
  status : QueueStatus
  state : TrackedState
  mediaId : Option MediaId
  quality : QualityModel
  languages : List Language
  indexer : Option String
  /-- When the download was first seen. -/
  added : Instant
  deriving DecidableEq, Repr, Inhabited

/-- What identifies a download: client and number, regardless of case. -/
abbrev TrackingKey := String × String

/-- The key of a download on a client. -/
def TrackingKey.of (client downloadId : String) : TrackingKey :=
  (Text.lowercase client, Text.lowercase downloadId)

namespace TrackedDownload

/-- The key under which the download is tracked. -/
def key (download : TrackedDownload) : TrackingKey :=
  .of download.client download.item.downloadId

/-- The download shows in the queue. -/
def isVisible (download : TrackedDownload) : Bool :=
  download.status != .deleted && download.state != .imported && download.state != .ignored

/-- The download did not work out. -/
def hasFailed (download : TrackedDownload) : Bool :=
  download.state == .failed || download.status == .failed

/-- The download after a report of it: a status that cannot follow is not taken over, all else
is. -/
def update (download : TrackedDownload) (item : DownloadItem) : TrackedDownload :=
  { download with
    item
    status := if download.status.canBecome item.status then item.status else download.status }

/-- The report changes the download. -/
def differsFrom (download : TrackedDownload) (item : DownloadItem) : Bool :=
  (download.status.canBecome item.status && download.status != item.status) ||
    !download.item.same item

end TrackedDownload

/-! ### Origins -/

/-- What is known about a download besides the reports of its client. -/
structure Origin where
  state : TrackedState
  mediaId : Option MediaId
  quality : QualityModel
  languages : List Language
  indexer : Option String
  deriving DecidableEq, Repr, Inhabited

namespace Origin

/-- A download that the history does not know is read from its title. -/
def ofTitle (title : String) : Origin :=
  let parsed := ParsedRelease.ofTitle title
  { state := .downloading
    mediaId := none
    quality := parsed.quality
    languages := parsed.languages
    indexer := none }

/-- The origin that the records of a download tell, newest first: the newest one tells the
state, the newest grab the rest. -/
def ofRecords (title : String) (records : List HistoryRecord) : Origin :=
  match records with
  | [] => ofTitle title
  | latest :: _ =>
    let grabbed := (records.find? (·.event == .grabbed)).getD latest
    { state := .ofEvent latest.event
      mediaId := some grabbed.mediaId
      quality := grabbed.quality
      languages := grabbed.languages
      indexer := grabbed.indexer }

/-- Looks up the origin of a download; a history that does not answer tells nothing. -/
def resolve {σ : Type} (history : HistoryReader σ) (item : DownloadItem) : σ → Origin × σ :=
  fun s =>
    match history.forDownload item.downloadId s with
    | (.ok records, s) => (ofRecords item.title records, s)
    | (.error _, s) => (ofTitle item.title, s)

end Origin

/-! ### The tracked downloads -/

/-- All tracked downloads. -/
structure TrackedDownloads where
  /-- The downloads in the order in which they were first seen. -/
  downloads : List TrackedDownload
  /-- The serial number of the next download. -/
  nextSerial : Nat
  deriving Repr, Inhabited

/-- A report of a client, with the origin of the download if it was not tracked before. -/
structure Sighting where
  item : DownloadItem
  origin : Option Origin
  deriving DecidableEq, Repr, Inhabited

namespace TrackedDownloads

/-- Nothing is tracked. -/
def empty : TrackedDownloads := ⟨[], 0⟩

/-- The download under the key. -/
def lookup? (tracked : TrackedDownloads) (key : TrackingKey) : Option TrackedDownload :=
  tracked.downloads.find? (·.key == key)

/-- Looks up the origins of the reported downloads that are not tracked yet. -/
def resolveAll {σ : Type} (history : HistoryReader σ) (tracked : TrackedDownloads)
    (client : String) : List DownloadItem → σ → List Sighting × σ
  | [], s => ([], s)
  | item :: items, s =>
    match tracked.lookup? (.of client item.downloadId) with
    | some _ =>
      let (sightings, s) := resolveAll history tracked client items s
      (⟨item, none⟩ :: sightings, s)
    | none =>
      let (origin, s) := Origin.resolve history item s
      let (sightings, s) := resolveAll history tracked client items s
      (⟨item, some origin⟩ :: sightings, s)

/-- Starts to track a download under a new identifier. -/
def start (tracked : TrackedDownloads) (client : String) (protocol : Protocol) (now : Instant)
    (item : DownloadItem) (origin : Origin) : TrackedDownloads where
  downloads := tracked.downloads ++ [{
    id := .download tracked.nextSerial
    client
    protocol
    item
    status := item.status
    state := origin.state
    mediaId := origin.mediaId
    quality := origin.quality
    languages := origin.languages
    indexer := origin.indexer
    added := now }]
  nextSerial := tracked.nextSerial + 1

/-- Takes in one report: the downloads afterwards, and whether they changed. -/
def applySighting (tracked : TrackedDownloads) (client : String) (protocol : Protocol)
    (now : Instant) (sighting : Sighting) : TrackedDownloads × Bool :=
  let key := TrackingKey.of client sighting.item.downloadId
  match tracked.lookup? key with
  | some download =>
    let downloads := tracked.downloads.map fun other =>
      if other.key == key then other.update sighting.item else other
    ({ tracked with downloads }, download.differsFrom sighting.item)
  | none =>
    let origin := sighting.origin.getD (.ofTitle sighting.item.title)
    (tracked.start client protocol now sighting.item origin, true)

/-- Takes in reports one after the other. -/
def applySightings (client : String) (protocol : Protocol) (now : Instant) :
    List Sighting → TrackedDownloads → TrackedDownloads × Bool
  | [], tracked => (tracked, false)
  | sighting :: sightings, tracked =>
    let (tracked, changed) := tracked.applySighting client protocol now sighting
    let (tracked, changedLater) := applySightings client protocol now sightings tracked
    (tracked, changed || changedLater)

/-- The client no longer reports the download, whose status does not show it yet. -/
def isGone (client : String) (seen : List TrackingKey) (download : TrackedDownload) : Bool :=
  download.key.1 == Text.lowercase client && !seen.contains download.key &&
    download.status != .deleted

/-- Marks the downloads of a client that it no longer reports as deleted. -/
def markGone (tracked : TrackedDownloads) (client : String) (seen : List TrackingKey) :
    TrackedDownloads × Bool :=
  let downloads := tracked.downloads.map fun download =>
    if isGone client seen download then { download with status := .deleted } else download
  ({ tracked with downloads }, tracked.downloads.any (isGone client seen))

/-- Takes in what a client reported: the downloads afterwards, and whether anything changed.
Origins are looked up before the first report is taken in. -/
def applyPoll {σ : Type} (history : HistoryReader σ) (tracked : TrackedDownloads)
    (client : String) (protocol : Protocol) (items : List DownloadItem) (now : Instant) :
    σ → (Bool × TrackedDownloads) × σ := fun s =>
  let (sightings, s) := tracked.resolveAll history client items s
  let (tracked, changed) := tracked.applySightings client protocol now sightings
  let seen := items.map fun item => TrackingKey.of client item.downloadId
  let (tracked, lost) := tracked.markGone client seen
  ((changed || lost, tracked), s)

/-! ### Questions and changes from outside -/

/-- Keys are ordered by client, then by number. -/
def keyLe (a b : TrackingKey) : Bool :=
  (compare a.1 b.1).then (compare a.2 b.2) != .gt

/-- All downloads, in the order of their keys. -/
def listed (tracked : TrackedDownloads) : List TrackedDownload :=
  tracked.downloads.mergeSort fun a b => keyLe a.key b.key

/-- The downloads that show in the queue, in the order of their keys. -/
def visible (tracked : TrackedDownloads) : List TrackedDownload :=
  tracked.listed.filter (·.isVisible)

/-- The download with the identifier. -/
def find? (tracked : TrackedDownloads) (id : QueueItemId) : Option TrackedDownload :=
  tracked.downloads.find? (·.id == id)

/-- A download with the number, up to the case of ASCII letters. -/
def findDownload? (tracked : TrackedDownloads) (downloadId : String) : Option TrackedDownload :=
  tracked.listed.find? fun download => Text.equalIgnoringCase download.item.downloadId downloadId

/-- Sets the state of a download; says whether there is one. -/
def setState (tracked : TrackedDownloads) (id : QueueItemId) (state : TrackedState) :
    Bool × TrackedDownloads :=
  let downloads := tracked.downloads.map fun download =>
    if download.id == id then { download with state } else download
  ((tracked.find? id).isSome, { tracked with downloads })

/-- Gives up a download and says which it was. -/
def stopTracking (tracked : TrackedDownloads) (id : QueueItemId) :
    Option TrackedDownload × TrackedDownloads :=
  (tracked.find? id, { tracked with downloads := tracked.downloads.filter (·.id != id) })

/-- What the queue holds for a media item. -/
def queuedFor (tracked : TrackedDownloads) (mediaId : MediaId) : List QueuedRelease :=
  (tracked.visible.filter (·.mediaId == some mediaId)).map fun download =>
    { title := download.item.title, quality := download.quality, failed := download.hasFailed }

end TrackedDownloads

end Acquisition
