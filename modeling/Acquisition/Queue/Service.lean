import Acquisition.Desk
import Acquisition.Queue.View

/-!
# Running the queue

The queue is refreshed from the download clients, looked at, and items are removed from it.

## Main definitions

* `Desk.refresh`: polls every client.
* `Desk.queue`, `Desk.queuePage`: the queue and its pages.
* `Desk.remove`: removes an item, from its client and for good if so asked.
-/

namespace Acquisition

/-- Why an item was not removed. -/
inductive QueueError
  | notFound (id : QueueItemId)
  /-- The client of the download is no longer configured. -/
  | unknownClient (name : String)
  /-- Only a download of a known media item can be ignored. -/
  | unknownMedia (downloadId : String)
  | client (error : ClientError)
  deriving DecidableEq, Repr, Inhabited

/-- The written form of an identifier; those that were handed out are told apart by a letter. -/
def QueueItemId.text : QueueItemId → String
  | download serial => s!"d{serial}"
  | pending serial => s!"p{serial}"
  | written number => Text.Uuid.write number

/-- The report of the error. -/
def QueueError.message : QueueError → String
  | notFound id => s!"queue item {id.text} not found"
  | unknownClient name => s!"download client '{name}' is not configured"
  | unknownMedia downloadId =>
    s!"download {downloadId} is not linked to a media item and cannot be ignored"
  | client error => error.message

/-- What came of polling the clients. -/
structure RefreshReport where
  polled : Nat := 0
  failed : Nat := 0
  changed : Bool := false
  deriving DecidableEq, Repr, Inhabited

/-- How an item is removed. -/
structure Removal where
  /-- The client deletes the download and its data. -/
  fromClient : Bool
  /-- The release is never grabbed again. -/
  blocklist : Bool
  deriving DecidableEq, Repr, Inhabited

namespace Desk

variable {σ : Type}

/-! ### Refreshing -/

/-- Polls one client.  One that does not answer keeps its last known state.  An answer that breaks the
program off (`ClientError.breakdown`) is counted as a failure and passed over, where in the program it
ends the whole refresh and the job that called it; there this does not follow the program. -/
def poll (client : DownloadClient σ) (now : Instant) (report : RefreshReport) (desk : Desk σ) :
    RefreshReport × Desk σ :=
  let report := { report with polled := report.polled + 1 }
  match client.items desk.clients with
  | (.error _, clients) => ({ report with failed := report.failed + 1 }, { desk with clients })
  | (.ok items, clients) =>
    let ((changed, tracked), _) :=
      desk.tracked.applyPoll (HistoryReader.ofHistory desk.history : HistoryReader Unit) client.name
        client.protocol
        items now ()
    ({ report with changed := report.changed || changed }, { desk with clients, tracked })

/-- Polls clients one after the other. -/
def pollAll (now : Instant) :
    ClientRegistry σ → RefreshReport → Desk σ → RefreshReport × Desk σ
  | [], report, desk => (report, desk)
  | client :: clients, report, desk =>
    let (report, desk) := desk.poll client now report
    pollAll now clients report desk

/-- Polls every client and tells the observers if anything changed.  This follows the program as long
as no client answers what breaks it off (see `poll`). -/
def refresh (setup : Setup σ) (now : Instant) (desk : Desk σ) : RefreshReport × Desk σ :=
  let (report, desk) := desk.pollAll now setup.registry {}
  (report, if report.changed then desk.notify else desk)

/-! ### Looking -/

/-- The queue. -/
def queue (setup : Setup σ) (now : Instant) (desk : Desk σ) : List QueueItem :=
  QueueItem.list setup.store now desk.tracked desk.pending

/-- A page of the filtered and sorted queue; qualities are ranked by the fallback profile. -/
def queuePage (setup : Setup σ) (now : Instant) (request : PageRequest) (filter : QueueFilter)
    (desk : Desk σ) : Page QueueItem :=
  let items := (desk.queue setup now).filter filter.accepts
  let items := sortQueue request.key request.direction setup.store.fallback items
  paginate items request.page.toNat request.size.toNat

/-- The item with the identifier. -/
def findItem? (setup : Setup σ) (now : Instant) (id : QueueItemId) (desk : Desk σ) :
    Option QueueItem :=
  (desk.queue setup now).find? (·.id == id)

/-! ### Removing -/

/-- The record of what was done with a download by hand. -/
def downloadRecord (download : TrackedDownload) (mediaId : MediaId) (event : HistoryEvent)
    (message : String) (now : Instant) : HistoryRecord where
  mediaId
  event
  downloadId := some download.item.downloadId
  quality := download.quality
  languages := download.languages
  sourceTitle := download.item.title
  indexer := download.indexer
  protocol := some download.protocol
  date := now
  message := some message

/-- Removes a pending release. -/
def removePending (release : PendingRelease) (blocklist : Bool) (now : Instant)
    (desk : Desk σ) : Desk σ :=
  let candidate := release.candidate
  let entry := BlockEntry.ofRelease candidate.media.id candidate.release candidate.parsed.quality
    "Pending release manually blocklisted" now
  let desk := if blocklist then { desk with blocklist := desk.blocklist ++ [entry] } else desk
  { desk with pending := (desk.pending.remove release.id).2 }.notify

/-- Writes down that a download is ignored from now on. -/
def ignoreDownload (download : TrackedDownload) (now : Instant) (desk : Desk σ) :
    Except QueueError Unit × Desk σ :=
  match download.mediaId with
  | none => (.error (.unknownMedia download.item.downloadId), desk)
  | some mediaId =>
    (.ok (), desk.record (downloadRecord download mediaId .downloadIgnored "Manually ignored" now))

/-- Has the client of a download delete it. -/
def deleteDownload (registry : ClientRegistry σ) (download : TrackedDownload) (desk : Desk σ) :
    Except QueueError Unit × Desk σ :=
  match registry.byName? download.client with
  | none => (.error (.unknownClient download.client), desk)
  | some client =>
    let (result, clients) := client.remove download.item true desk.clients
    (result.mapError .client, { desk with clients })

/-- Blocks a download; one of no known media item is left alone. -/
def blockDownload (download : TrackedDownload) (now : Instant) (desk : Desk σ) : Desk σ :=
  match download.mediaId with
  | none => desk
  | some mediaId =>
    let message := "Manually marked as failed"
    let entry := BlockEntry.ofDownload mediaId download.item.title download.indexer
      download.protocol download.quality download.item.downloadId message now
    let desk := desk.record (downloadRecord download mediaId .downloadFailed message now)
    { desk with blocklist := desk.blocklist ++ [entry] }

/-- Stops tracking a download and announces that. -/
def dismiss (download : TrackedDownload) (removal : Removal) (now : Instant) (desk : Desk σ) :
    Desk σ :=
  let desk := { desk with tracked := (desk.tracked.stopTracking download.id).2 }
  let event : DownloadRemoved :=
    { downloadId := download.item.downloadId
      client := download.client
      removedFromClient := removal.fromClient
      blocklisted := removal.blocklist }
  (desk.publish event now).notify

/-- Removes a download: it is ignored if it is neither deleted nor blocked. -/
def removeDownload (registry : ClientRegistry σ) (download : TrackedDownload) (removal : Removal)
    (now : Instant) (desk : Desk σ) : Except QueueError Unit × Desk σ :=
  let ignored := !removal.fromClient && !removal.blocklist
  match if ignored then desk.ignoreDownload download now else (.ok (), desk) with
  | (.error error, desk) => (.error error, desk)
  | (.ok (), desk) =>
    match if removal.fromClient then desk.deleteDownload registry download else (.ok (), desk) with
    | (.error error, desk) => (.error error, desk)
    | (.ok (), desk) =>
      let desk := if removal.blocklist then desk.blockDownload download now else desk
      (.ok (), desk.dismiss download removal now)

/-- Removes an item from the queue. -/
def remove (setup : Setup σ) (now : Instant) (id : QueueItemId) (removal : Removal)
    (desk : Desk σ) : Except QueueError Unit × Desk σ :=
  match desk.pending.find? id with
  | some release => (.ok (), desk.removePending release removal.blocklist now)
  | none =>
    match desk.tracked.find? id with
    | some download => desk.removeDownload setup.registry download removal now
    | none => (.error (.notFound id), desk)

end Desk

end Acquisition
