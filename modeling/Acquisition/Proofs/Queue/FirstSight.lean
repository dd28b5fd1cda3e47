import Acquisition.Proofs.History
import Acquisition.Proofs.Queue.Poll

/-!
# What is found out at first sight

When a client reports a download for the first time, its origin is looked up in the log: the state
that the latest record tells, and the media item, quality, languages and indexer of the grab.  From
then on polls leave the origin alone, however the log goes on.

## Main definitions

* `History.tells`: the state that the log tells of a download at the moment.
* `TrackedDownload.origin`: what was found out about a download.
* `Report`: what a client reports, apart from the log that it is taken in with.
* `Watch`: a log that is written and downloads that are polled; `firstOrigin` is what the log told
  when a download was first reported.

## Main results

* `Report.origin_lookup?`: what a poll finds out.
* `Watch.origin_lookup?_run`: over a run, the first report of a download decides.
* `Watch.follows_history_iff`: the states follow the log exactly as far as the log tells of every
  download what it told at first sight.
-/

namespace Acquisition

open TrackedDownloads

/-! ### What the log tells -/

/-- The state that the latest record of a download tells; one without records is downloading. -/
def History.tells (history : History) (downloadId : String) : TrackedState :=
  match (history.forDownload downloadId).head? with
  | some latest => .ofEvent latest.event
  | none => .downloading

/-- The origin that the log tells of a reported download. -/
def Origin.ofLog (history : History) (item : DownloadItem) : Origin :=
  .ofRecords item.title (history.forDownload item.downloadId)

theorem Origin.ofLog_state (history : History) (item : DownloadItem) :
    (Origin.ofLog history item).state = history.tells item.downloadId := by
  rw [ofLog, History.tells]
  cases history.forDownload item.downloadId with
  | nil => rfl
  | cons latest records => rfl

/-- What was found out about the download when it was first reported. -/
def TrackedDownload.origin (download : TrackedDownload) : Origin where
  state := download.state
  mediaId := download.mediaId
  quality := download.quality
  languages := download.languages
  indexer := download.indexer

namespace TrackedDownload

theorem origin_miss (client : String) (seen : List TrackingKey) (download : TrackedDownload) :
    (download.miss client seen).origin = download.origin := by
  rw [miss]
  split <;> rfl

end TrackedDownload

/-! ### One poll -/

/-- The item is a report of the download under the key. -/
def reports (client : String) (key : TrackingKey) (item : DownloadItem) : Bool :=
  TrackingKey.of client item.downloadId == key

namespace TrackedDownloads

variable {tracked : TrackedDownloads} {key : TrackingKey}

/-- The origin that a report brings along, for a download that was not tracked before. -/
def brought (sighting : Sighting) : Origin :=
  sighting.origin.getD (.ofTitle sighting.item.title)

theorem origin_lookup?_applySighting (client : String) (protocol : Protocol) (now : Instant)
    (sighting : Sighting) (tracked : TrackedDownloads) (key : TrackingKey) :
    ((tracked.applySighting client protocol now sighting).1.lookup? key).map (·.origin) =
      ((tracked.lookup? key).map (·.origin)).or
        (if reports client key sighting.item then some (brought sighting) else none) := by
  by_cases hkey : key = .of client sighting.item.downloadId
  · subst hkey
    rw [reports, beq_self_eq_true, if_pos rfl]
    cases hlookup : tracked.lookup? (.of client sighting.item.downloadId) with
    | none =>
      rw [applySighting_of_none hlookup, lookup?, start, List.find?_append, List.find?_singleton]
      rw [lookup?] at hlookup
      rw [hlookup, Option.none_or, if_pos]
      · rfl
      · exact beq_self_eq_true (TrackingKey.of client sighting.item.downloadId)
    | some download =>
      rw [applySighting_of_some hlookup, lookup?_sight, hlookup, Option.map_some,
        TrackedDownload.sight_of_key_eq (key_of_lookup? hlookup)]
      rfl
  · have hother : reports client key sighting.item = false := by
      rw [reports, beq_eq_false_iff_ne]
      exact Ne.symm hkey
    rw [lookup?_applySighting_of_ne hkey, hother, if_neg Bool.false_ne_true, Option.or_none]

/-- **The first report decides.**  The induction is on the reports: once the download is tracked,
those that are still to come change nothing about its origin. -/
theorem origin_lookup?_applySightings (client : String) (protocol : Protocol) (now : Instant)
    (key : TrackingKey) : ∀ (sightings : List Sighting) (tracked : TrackedDownloads),
      ((applySightings client protocol now sightings tracked).1.lookup? key).map (·.origin) =
        ((tracked.lookup? key).map (·.origin)).or
          ((sightings.find? (reports client key ·.item)).map brought) := by
  intro sightings
  induction sightings with
  | nil => exact fun tracked => (Option.or_none).symm
  | cons sighting sightings ih =>
    intro tracked
    rw [applySightings_cons, ih, origin_lookup?_applySighting, Option.or_assoc, List.find?_cons]
    cases reports client key sighting.item <;> rfl

/-- A report with the origin that the log tells, if the download was not tracked before. -/
def toldSighting (history : History) (tracked : TrackedDownloads) (client : String)
    (item : DownloadItem) : Sighting where
  item
  origin :=
    match tracked.lookup? (.of client item.downloadId) with
    | some _ => none
    | none => some (.ofLog history item)

theorem resolveAll_ofHistory (history : History) (tracked : TrackedDownloads) (client : String)
    (items : List DownloadItem) :
    (tracked.resolveAll (HistoryReader.ofHistory history : HistoryReader Unit) client items ()).1 =
      items.map (toldSighting history tracked client) := by
  induction items with
  | nil => rfl
  | cons item items ih =>
    rw [resolveAll, List.map_cons, ← ih, toldSighting]
    cases tracked.lookup? (.of client item.downloadId) <;> rfl

theorem brought_toldSighting {history : History} {client : String} {item : DownloadItem}
    (hfresh : tracked.lookup? (.of client item.downloadId) = none) :
    brought (toldSighting history tracked client item) = .ofLog history item := by
  rw [brought, toldSighting, hfresh]
  rfl

end TrackedDownloads

/-- The origin of a tracked download stays, and that of any other is brought by its first
report. -/
theorem Poll.origin_lookup? {σ : Type} (poll : Poll σ) (tracked : TrackedDownloads)
    (key : TrackingKey) :
    ((poll.apply tracked).lookup? key).map (·.origin) =
      ((tracked.lookup? key).map (·.origin)).or
        (((poll.sightings tracked).find? (reports poll.client key ·.item)).map brought) := by
  rw [apply_eq, lookup?_markGone, Option.map_map]
  refine Eq.trans (Option.map_congr fun download _ => download.origin_miss _ _) ?_
  rw [Poll.reported, origin_lookup?_applySightings]

/-- What a client reports. -/
structure Report where
  client : String
  protocol : Protocol
  items : List DownloadItem
  now : Instant

namespace Report

/-- The poll that takes in the report while the log is as given. -/
def against (report : Report) (history : History) : Poll Unit where
  client := report.client
  protocol := report.protocol
  items := report.items
  now := report.now
  history := .ofHistory history
  state := ()

/-- The first report of the download under the key. -/
def first? (report : Report) (key : TrackingKey) : Option DownloadItem :=
  report.items.find? (reports report.client key)

/-- **What a poll finds out**: the origin of a tracked download stays, and that of any other is
what the log tells of its first report. -/
theorem origin_lookup? (report : Report) (history : History) (tracked : TrackedDownloads)
    (key : TrackingKey) :
    (((report.against history).apply tracked).lookup? key).map (·.origin) =
      ((tracked.lookup? key).map (·.origin)).or
        ((report.first? key).map (.ofLog history)) := by
  have hsightings : (report.against history).sightings tracked =
      report.items.map (toldSighting history tracked report.client) :=
    resolveAll_ofHistory history tracked report.client report.items
  rw [Poll.origin_lookup?, hsightings, List.find?_map, Option.map_map]
  cases hlookup : tracked.lookup? key with
  | some download => rfl
  | none =>
    -- the first report brings what the log tells, as the download is not tracked
    refine congrArg _ (Option.map_congr fun item hitem => ?_)
    have hkey : TrackingKey.of report.client item.downloadId = key :=
      beq_iff_eq.mp (List.find?_some hitem : reports report.client key item = true)
    exact brought_toldSighting (hkey ▸ hlookup)

end Report

/-! ### Runs -/

/-- A log that is written, and the downloads that polls find with it. -/
structure Watch where
  history : History
  tracked : TrackedDownloads

/-- What happens next: something is written into the log, or a client reports. -/
inductive WatchStep
  | record (entry : HistoryRecord)
  | poll (report : Report)

namespace Watch

/-- Nothing is written and nothing was reported. -/
def empty : Watch := ⟨.empty, .empty⟩

/-- What is written and tracked after a step. -/
def step (watch : Watch) : WatchStep → Watch
  | .record entry => { watch with history := watch.history.append entry }
  | .poll report => { watch with tracked := (report.against watch.history).apply watch.tracked }

/-- What is written and tracked after steps, one after the other. -/
def run (watch : Watch) (steps : List WatchStep) : Watch :=
  steps.foldl step watch

/-- The state of every download of the client that is not deleted is the one that the log tells. -/
def FollowsHistory (watch : Watch) (client : String) : Prop :=
  ∀ download ∈ watch.tracked.downloads, download.key.1 = Text.lowercase client →
    download.status ≠ .deleted → download.state = watch.history.tells download.item.downloadId

end Watch

/-- What the log tells when the download under the key is first reported. -/
def firstOrigin (key : TrackingKey) : History → List WatchStep → Option Origin
  | _, [] => none
  | history, .record entry :: steps => firstOrigin key (history.append entry) steps
  | history, .poll report :: steps =>
    ((report.first? key).map (.ofLog history)).or (firstOrigin key history steps)

namespace Watch

/-- **Over a run, the first report of a download decides.** -/
theorem origin_lookup?_run (key : TrackingKey) : ∀ (steps : List WatchStep) (watch : Watch),
    ((watch.run steps).tracked.lookup? key).map (·.origin) =
      ((watch.tracked.lookup? key).map (·.origin)).or (firstOrigin key watch.history steps) := by
  intro steps
  induction steps with
  | nil => exact fun watch => Option.or_none.symm
  | cons step steps ih =>
    intro watch
    cases step with
    | record entry => exact ih (watch.step (.record entry))
    | poll report =>
      have hrest := ih (watch.step (.poll report))
      rw [step, report.origin_lookup?, Option.or_assoc] at hrest
      exact hrest

theorem run_sound : ∀ (steps : List WatchStep) {watch : Watch}, watch.tracked.Sound →
    (watch.run steps).tracked.Sound := by
  intro steps
  induction steps with
  | nil => exact id
  | cons step steps ih =>
    intro watch hsound
    cases step with
    | record entry => exact ih hsound
    | poll report => exact ih ((report.against watch.history).apply_sound hsound)

/-- **Every download has the origin that the log told when it was first reported.** -/
theorem firstOrigin_of_mem (steps : List WatchStep) {download : TrackedDownload}
    (hmem : download ∈ (empty.run steps).tracked.downloads) :
    firstOrigin download.key .empty steps = some download.origin := by
  have hlookup := (run_sound steps .empty).lookup?_key hmem
  have horigin := origin_lookup?_run download.key steps empty
  rw [hlookup] at horigin
  exact horigin.symm

/-- **The states of the downloads of a client follow the log, right after it reported, exactly if
the log tells of each of them what it told when the download was first reported.** -/
theorem follows_history_iff (steps : List WatchStep) (report : Report) :
    let watch := empty.run (steps ++ [.poll report])
    watch.FollowsHistory report.client ↔
      ∀ download ∈ watch.tracked.downloads, download.key.1 = Text.lowercase report.client →
        download.status ≠ .deleted →
          (firstOrigin download.key .empty (steps ++ [.poll report])).map (·.state) =
            some (watch.history.tells download.item.downloadId) := by
  intro watch
  refine forall_congr' fun download => forall_congr' fun hmem => forall_congr' fun _ =>
    forall_congr' fun _ => ?_
  rw [firstOrigin_of_mem _ hmem, Option.map_some, Option.some.injEq]
  rfl

/-! ### A download that is imported late -/

/-- A download in the given status. -/
def movieItem (status : QueueStatus) : DownloadItem :=
  { (default : DownloadItem) with downloadId := "sab-1", title := "Movie.Title.2020", status }

/-- Its client reports it. -/
def movieReport (status : QueueStatus) : Report where
  client := "sab"
  protocol := .usenet
  items := [movieItem status]
  now := 0

/-- The download is imported. -/
def movieImport : HistoryRecord :=
  { (default : HistoryRecord) with
    mediaId := 1, event := .downloadFolderImported, downloadId := some "sab-1" }

/-- It is imported after it was first reported. -/
def lateImport : List WatchStep :=
  [.poll (movieReport .downloading), .record movieImport]

/-- The states need not follow the log: a download that is imported after it was first reported
still counts as downloading after the next report. -/
theorem not_follows_history : ¬ ∀ (steps : List WatchStep) (report : Report),
    (empty.run (steps ++ [.poll report])).FollowsHistory report.client := by
  intro hfollows
  have hlate := hfollows lateImport (movieReport .completed)
  have hviews : (empty.run (lateImport ++ [.poll (movieReport .completed)])).tracked.downloads.map
      (fun download => (download.key, download.item.downloadId, download.status)) =
        [(.of "sab" "sab-1", "sab-1", .completed)] := by
    decide
  obtain ⟨download, hdownloads, hview⟩ := List.map_eq_singleton_iff.mp hviews
  simp only [Prod.mk.injEq] at hview
  obtain ⟨hkey, hid, hstatus⟩ := hview
  have hmem : download ∈
      (empty.run (lateImport ++ [.poll (movieReport .completed)])).tracked.downloads := by
    rw [hdownloads]
    exact List.mem_singleton_self download
  -- the log was empty at first sight, and its one record tells of the import by now
  have hfirst : download.state = .downloading := by
    have horigin := firstOrigin_of_mem _ hmem
    rw [hkey] at horigin
    have hreported : firstOrigin (.of "sab" "sab-1") .empty
        (lateImport ++ [.poll (movieReport .completed)]) =
          some (.ofLog .empty (movieItem .downloading)) := rfl
    rw [hreported, Option.some.injEq] at horigin
    calc download.state = (Origin.ofLog .empty (movieItem .downloading)).state :=
          (congrArg Origin.state horigin).symm
      _ = .downloading := by
          rw [Origin.ofLog_state, History.tells, History.forDownload, History.newestFirst_empty]
          rfl
  have htold : (History.empty.append movieImport).tells "sab-1" = .imported := by
    rw [History.tells, History.forDownload, History.newestFirst_append]
    · rfl
    · decide
    · exact fun other hmem => absurd hmem List.not_mem_nil
  have hstate := hlate download hmem (by rw [hkey]; rfl) (by rw [hstatus]; decide)
  rw [hid, hfirst] at hstate
  exact absurd (hstate.trans htold) (by decide)

end Watch

end Acquisition
