import Acquisition.Proofs.Queue.InFlight

/-!
# What a report leaves under a key

Many downloads are reported at once, and clients may share their numbers.  Yet what is tracked under a
key after a report depends on what was tracked under this key, on the reports of this download in
their order, and on the log if the download is new; all that other downloads have a part in is the
identifier that a new one is given.

So clients that keep apart can be polled in any order, and each might as well be polled alone.

## Main definitions

* `Report.newcomer`: a download at its first report.
* `Report.leaves`: what a report leaves under a key.
* `AgreeSince`: under a key both hold the same, up to the identifier of a new download.

## Main results

* `Report.exists_lookup?_eq_leaves`: look-up after a report, in closed form.
* `lookup?_takeIn_of_other`, `exists_lookup?_takeIn_eq_leaves`: of answers under different names, at
  most one has a part in what is found under a key.
-/

namespace Acquisition

open TrackedDownloads

/-! ### Downloads without identifiers -/

namespace TrackedDownload

/-- The download without its identifier. -/
def anonymous (download : TrackedDownload) : TrackedDownload :=
  { download with id := .written 0 }

theorem anonymous_update (download : TrackedDownload) (item : DownloadItem) :
    (download.update item).anonymous = download.anonymous.update item := rfl

theorem anonymous_foldl_update : ∀ (items : List DownloadItem) (download : TrackedDownload),
    (items.foldl update download).anonymous = items.foldl update download.anonymous := by
  intro items
  induction items with
  | nil => exact fun _ => rfl
  | cons item items ih =>
    intro download
    rw [List.foldl_cons, List.foldl_cons, ← anonymous_update]
    exact ih (download.update item)

theorem anonymous_miss (client : String) (seen : List TrackingKey) (download : TrackedDownload) :
    (download.miss client seen).anonymous = download.anonymous.miss client seen := by
  have hgone : isGone client seen download.anonymous = isGone client seen download := rfl
  rw [miss, miss, hgone]
  split <;> rfl

end TrackedDownload

/-- Under the key both hold the same, up to the identifier of a download that was not tracked
before. -/
structure AgreeSince (before : TrackedDownloads) (key : TrackingKey)
    (first second : TrackedDownloads) : Prop where
  found : (first.lookup? key).map TrackedDownload.anonymous =
    (second.lookup? key).map TrackedDownload.anonymous
  kept : before.lookup? key ≠ none → first.lookup? key = second.lookup? key

namespace AgreeSince

variable {before first second third : TrackedDownloads} {key : TrackingKey}

theorem of_eq (h : first.lookup? key = second.lookup? key) : AgreeSince before key first second :=
  ⟨congrArg _ h, fun _ => h⟩

theorem symm (h : AgreeSince before key first second) : AgreeSince before key second first :=
  ⟨h.found.symm, fun hbefore => (h.kept hbefore).symm⟩

theorem trans (h : AgreeSince before key first second) (h' : AgreeSince before key second third) :
    AgreeSince before key first third :=
  ⟨h.found.trans h'.found, fun hbefore => (h.kept hbefore).trans (h'.kept hbefore)⟩

end AgreeSince

/-! ### One report -/

namespace Report

variable {history : History} {key : TrackingKey} {id : QueueItemId}

/-- A download at its first report: its origin is what the log tells. -/
def newcomer (report : Report) (history : History) (id : QueueItemId) (item : DownloadItem) :
    TrackedDownload :=
  let origin := Origin.ofLog history item
  { id
    client := report.client
    protocol := report.protocol
    item
    status := item.status
    state := origin.state
    mediaId := origin.mediaId
    quality := origin.quality
    languages := origin.languages
    indexer := origin.indexer
    added := report.now }

/-- A download is as its first report says, so that taking the report in again changes nothing. -/
theorem update_newcomer (report : Report) (history : History) (id : QueueItemId)
    (item : DownloadItem) :
    (report.newcomer history id item).update item = report.newcomer history id item := by
  rw [TrackedDownload.update]
  split <;> rfl

/-- The download under the key as it is reported: one that was not tracked starts with its first
report. -/
def takes (report : Report) (history : History) (key : TrackingKey) (id : QueueItemId)
    (before : Option TrackedDownload) : Option TrackedDownload :=
  (before.or ((report.first? key).map (report.newcomer history id))).map
    ((report.items.filter (reports report.client key)).foldl TrackedDownload.update)

/-- **What the report leaves under the key**, where `before` was: all reports of the download are
taken in, and if there is none, it is gone from its client. -/
def leaves (report : Report) (history : History) (key : TrackingKey) (id : QueueItemId)
    (before : Option TrackedDownload) : Option TrackedDownload :=
  (report.takes history key id before).map
    (·.miss report.client (reportedKeys report.client report.items))

/-- A download that was tracked keeps its identifier. -/
theorem leaves_some (report : Report) (id id' : QueueItemId) (download : TrackedDownload) :
    report.leaves history key id (some download) = report.leaves history key id' (some download) :=
  rfl

/-- The identifier makes no other difference. -/
theorem anonymous_leaves (report : Report) (id id' : QueueItemId) (before : Option TrackedDownload) :
    (report.leaves history key id before).map TrackedDownload.anonymous =
      (report.leaves history key id' before).map TrackedDownload.anonymous := by
  cases before with
  | some download => rfl
  | none =>
    rw [leaves, leaves, takes, takes, Option.none_or, Option.none_or]
    cases report.first? key with
    | none => rfl
    | some item =>
      simp only [Option.map_some, TrackedDownload.anonymous_miss,
        TrackedDownload.anonymous_foldl_update]
      rfl

/-- A download keeps its key through reports of it. -/
theorem key_foldl_update {client : String} : ∀ {items : List DownloadItem}
    {download : TrackedDownload}, download.key = key →
      (∀ item ∈ items, reports client key item = true) →
      (items.foldl TrackedDownload.update download).key = key := by
  intro items
  induction items with
  | nil => exact fun hkey _ => hkey
  | cons item items ih =>
    intro download hkey hreports
    obtain ⟨hfirst, hrest⟩ := List.forall_mem_cons.mp hreports
    have hsame : TrackingKey.of client item.downloadId = key := beq_iff_eq.mp hfirst
    refine ih ?_ hrest
    rw [(TrackedDownload.update_advances (hkey.trans hsame.symm)).same.key, hkey]

/-- A new download of which alone there are reports: it starts with the first one, and those behind it
update it. -/
theorem leaves_none_of_forall_reports {report : Report} {item : DownloadItem}
    {items : List DownloadItem} (hitems : report.items = item :: items)
    (hreports : ∀ other ∈ item :: items, reports report.client key other = true) :
    report.leaves history key id none =
      some (items.foldl TrackedDownload.update (report.newcomer history id item)) := by
  obtain ⟨hfirst, hrest⟩ := List.forall_mem_cons.mp hreports
  have hkey : TrackingKey.of report.client item.downloadId = key := beq_iff_eq.mp hfirst
  have hseen : (items.foldl TrackedDownload.update (report.newcomer history id item)).key ∈
      reportedKeys report.client report.items := by
    have hnewcomer : (report.newcomer history id item).key = key := hkey
    rw [key_foldl_update hnewcomer hrest, hitems, ← hkey]
    exact List.mem_map_of_mem List.mem_cons_self
  have htakes : report.takes history key id none =
      some (items.foldl TrackedDownload.update (report.newcomer history id item)) := by
    rw [takes, first?, hitems, List.find?_cons_of_pos hfirst, List.filter_eq_self.mpr hreports,
      Option.none_or, Option.map_some, Option.map_some, List.foldl_cons, update_newcomer]
  rw [leaves, htakes, Option.map_some, TrackedDownload.miss_of_mem report.client hseen]

end Report

namespace TrackedDownloads

variable {report : Report} {history : History} {key : TrackingKey} {tracked : TrackedDownloads}

/-- One report of the download under the key. -/
theorem lookup?_applySighting_of_reports {sighting : Sighting}
    (hreports : reports report.client key sighting.item = true)
    (hbrought : tracked.lookup? key = none → brought sighting = .ofLog history sighting.item) :
    (tracked.applySighting report.client report.protocol report.now sighting).1.lookup? key =
      some (((tracked.lookup? key).getD
        (report.newcomer history (.download tracked.nextSerial) sighting.item)).update
          sighting.item) := by
  obtain rfl : TrackingKey.of report.client sighting.item.downloadId = key := beq_iff_eq.mp hreports
  cases hlookup : tracked.lookup? (.of report.client sighting.item.downloadId) with
  | none =>
    have horigin : sighting.origin.getD (.ofTitle sighting.item.title) =
        .ofLog history sighting.item := hbrought hlookup
    rw [applySighting_of_none hlookup, horigin, Option.getD_none, Report.update_newcomer, lookup?,
      start, List.find?_append, List.find?_singleton]
    rw [lookup?] at hlookup
    rw [hlookup, Option.none_or, if_pos]
    · rfl
    · exact beq_self_eq_true (TrackingKey.of report.client sighting.item.downloadId)
  | some download =>
    rw [applySighting_of_some hlookup, lookup?_sight, hlookup, Option.map_some,
      TrackedDownload.sight_of_key_eq (key_of_lookup? hlookup), Option.getD_some]

end TrackedDownloads

namespace Report

variable {history : History} {key : TrackingKey} {tracked : TrackedDownloads}

theorem takes_nil (report : Report) (id : QueueItemId) (before : Option TrackedDownload) :
    ({ report with items := [] } : Report).takes history key id before = before := by
  cases before <;> rfl

/-- A report of the download, ahead of others. -/
theorem takes_cons_of_reports {report : Report} {item : DownloadItem}
    (hreports : reports report.client key item = true) (items : List DownloadItem)
    (id id' : QueueItemId) (before : Option TrackedDownload) :
    ({ report with items := item :: items } : Report).takes history key id before =
      ({ report with items } : Report).takes history key id'
        (some ((before.getD (report.newcomer history id item)).update item)) := by
  rw [takes, takes, first?, List.find?_cons_of_pos hreports, List.filter_cons_of_pos hreports,
    Option.some_or, Option.map_some]
  cases before <;> rfl

/-- A report of another download, ahead of others. -/
theorem takes_cons_of_not {report : Report} {item : DownloadItem}
    (hother : reports report.client key item = false) (items : List DownloadItem)
    (id : QueueItemId) (before : Option TrackedDownload) :
    ({ report with items := item :: items } : Report).takes history key id before =
      ({ report with items } : Report).takes history key id before := by
  have hnot : ¬ reports report.client key item = true := Bool.eq_false_iff.mp hother
  rw [takes, takes, first?, first?, List.find?_cons_of_neg hnot, List.filter_cons_of_neg hnot]
  rfl

/-- **All reports of the download under the key.**  The induction is on the reports; the log is only
asked while none of them was of the download. -/
theorem exists_lookup?_applySightings (report : Report) : ∀ (sightings : List Sighting)
    {tracked : TrackedDownloads},
    (tracked.lookup? key = none → ∀ sighting ∈ sightings,
      reports report.client key sighting.item = true →
        brought sighting = .ofLog history sighting.item) →
    ∃ id, (applySightings report.client report.protocol report.now sightings tracked).1.lookup? key =
      ({ report with items := sightings.map (·.item) } : Report).takes history key id
        (tracked.lookup? key) := by
  intro sightings
  induction sightings with
  | nil =>
    intro tracked _
    exact ⟨default, (report.takes_nil default _).symm⟩
  | cons sighting sightings ih =>
    intro tracked hbrought
    rw [applySightings_cons, List.map_cons]
    cases hreports : reports report.client key sighting.item with
    | true =>
      have hfirst : tracked.lookup? key = none → brought sighting = .ofLog history sighting.item :=
        fun hnone => hbrought hnone sighting List.mem_cons_self hreports
      have hstep := lookup?_applySighting_of_reports hreports hfirst
      -- from here on it is tracked, and the log is not asked again
      have htracked : (tracked.applySighting report.client report.protocol report.now
          sighting).1.lookup? key ≠ none := by
        rw [hstep]
        exact Option.some_ne_none _
      obtain ⟨id, hlater⟩ := ih fun hnone => absurd hnone htracked
      refine ⟨.download tracked.nextSerial, ?_⟩
      rw [hlater, hstep]
      exact (takes_cons_of_reports hreports _ _ id _).symm
    | false =>
      have hkey : key ≠ .of report.client sighting.item.downloadId := by
        rw [reports, beq_eq_false_iff_ne] at hreports
        exact hreports.symm
      have hstep : (tracked.applySighting report.client report.protocol report.now
          sighting).1.lookup? key = tracked.lookup? key := lookup?_applySighting_of_ne hkey
      obtain ⟨id, hlater⟩ := ih fun hnone later hmem =>
        hbrought (hstep.symm.trans hnone) later (List.mem_cons_of_mem _ hmem)
      refine ⟨id, ?_⟩
      rw [hlater, hstep]
      exact (takes_cons_of_not hreports _ _ _).symm

/-- **Look-up after a report**, in closed form. -/
theorem exists_lookup?_eq_leaves (report : Report) (history : History) (tracked : TrackedDownloads)
    (key : TrackingKey) : ∃ id, ((report.against history).apply tracked).lookup? key =
      report.leaves history key id (tracked.lookup? key) := by
  have hsightings : (report.against history).sightings tracked =
      report.items.map (toldSighting history tracked report.client) :=
    resolveAll_ofHistory history tracked report.client report.items
  have hitems : (report.items.map (toldSighting history tracked report.client)).map (·.item) =
      report.items := by
    rw [← hsightings]
    exact (report.against history).sightings_items tracked
  have hbrought : tracked.lookup? key = none →
      ∀ sighting ∈ report.items.map (toldSighting history tracked report.client),
        reports report.client key sighting.item = true →
          brought sighting = .ofLog history sighting.item := by
    intro hnone sighting hmem hreports
    obtain ⟨item, -, rfl⟩ := List.mem_map.mp hmem
    have hkey : TrackingKey.of report.client item.downloadId = key := beq_iff_eq.mp hreports
    exact brought_toldSighting (hkey ▸ hnone)
  obtain ⟨id, hlookup⟩ := report.exists_lookup?_applySightings _ hbrought
  refine ⟨id, ?_⟩
  rw [hitems] at hlookup
  rw [Poll.apply_eq, lookup?_markGone, Poll.reported, hsightings, leaves]
  exact congrArg _ hlookup

/-- What two reports of the same make of the same agrees. -/
theorem agreeSince_of_leaves {report : Report} {before first second : TrackedDownloads}
    {id id' : QueueItemId}
    (hfirst : first.lookup? key = report.leaves history key id (before.lookup? key))
    (hsecond : second.lookup? key = report.leaves history key id' (before.lookup? key)) :
    AgreeSince before key first second := by
  refine ⟨?_, fun hbefore => ?_⟩
  · rw [hfirst, hsecond]
    exact report.anonymous_leaves id id' _
  · obtain ⟨download, hdownload⟩ := Option.ne_none_iff_exists'.mp hbefore
    rw [hfirst, hsecond, hdownload]
    exact report.leaves_some id id' download

end Report

/-! ### Several answers -/

section

variable {history : History} {key : TrackingKey}

/-- Answers of other clients have no part in it. -/
theorem lookup?_takeIn_of_other : ∀ {answers : List Report} {tracked : TrackedDownloads},
    (∀ answer ∈ answers, key.1 ≠ Text.lowercase answer.client) →
    (takeIn history answers tracked).lookup? key = tracked.lookup? key := by
  intro answers
  induction answers with
  | nil => exact fun _ => rfl
  | cons answer answers ih =>
    intro tracked hothers
    obtain ⟨hfirst, hrest⟩ := List.forall_mem_cons.mp hothers
    have hkept : ((answer.against history).apply tracked).lookup? key = tracked.lookup? key :=
      Poll.lookup?_of_other hfirst
    exact (ih hrest).trans hkept

/-- **Of answers under different names, the one of the client of the download decides.** -/
theorem exists_lookup?_takeIn_eq_leaves : ∀ {answers : List Report} {tracked : TrackedDownloads},
    answers.Pairwise (fun a b => Text.lowercase a.client ≠ Text.lowercase b.client) →
    ∀ answer ∈ answers, key.1 = Text.lowercase answer.client →
      ∃ id, (takeIn history answers tracked).lookup? key =
        answer.leaves history key id (tracked.lookup? key) := by
  intro answers
  induction answers with
  | nil => exact fun _ answer hmem => absurd hmem List.not_mem_nil
  | cons first answers ih =>
    intro tracked hapart answer hmem hclient
    obtain ⟨hfirst, hapart⟩ := List.pairwise_cons.mp hapart
    rcases List.mem_cons.mp hmem with rfl | hmem
    · -- those that are still to come are of other clients
      have hothers : ∀ other ∈ answers, key.1 ≠ Text.lowercase other.client :=
        fun other hother => hclient ▸ hfirst other hother
      obtain ⟨id, hlookup⟩ := answer.exists_lookup?_eq_leaves history tracked key
      exact ⟨id, (lookup?_takeIn_of_other hothers).trans hlookup⟩
    · have hother : key.1 ≠ Text.lowercase first.client := hclient ▸ (hfirst answer hmem).symm
      have hkept : ((first.against history).apply tracked).lookup? key = tracked.lookup? key :=
        Poll.lookup?_of_other hother
      rw [← hkept]
      exact ih hapart answer hmem hclient

end

end Acquisition
