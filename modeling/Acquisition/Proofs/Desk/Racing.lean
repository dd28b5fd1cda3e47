import Acquisition.Proofs.Desk.Ignoring

/-!
# Polls that race with other requests

A poll has two parts: first the origins of the reported downloads that are not tracked are looked up
in the log, and later the reports are taken in.  Whatever else is asked of the desk may come in
between.

What was looked up is not looked at again.  A download that was tracked at first and is given up in
between comes back with nothing but what its title says, and so does one that the log came to
mention in between.

## Main definitions

* `Report.lookUp`, `Report.settle`: the two parts of a poll.
* `Desk.racingPoll`: a poll during which other things happen.
* `History.Mentions`, `History.Links`: the log mentions a download, and says which media item it is
  for.

## Main results

* `Report.settle_lookUp`: one part right after the other is a poll.
* `Report.origin_lookup?_settle`: what taking in the reports makes known.
* `Desk.links_inserted_iff`: **a download that a poll brings in is linked exactly if it was not
  tracked at the look-up and the log mentioned it then.**
-/

namespace Acquisition

open TrackedDownloads

variable {σ : Type}

/-! ### What the log says of a download -/

namespace History

variable {history : History} {downloadId : String} {download : TrackedDownload}

/-- The log mentions the download. -/
def Mentions (history : History) (downloadId : String) : Prop :=
  ∃ record ∈ history.records, record.concerns downloadId = true

/-- The download is for the media item of one of its records. -/
def Links (history : History) (download : TrackedDownload) : Prop :=
  ∃ record ∈ history.records, record.concerns download.item.downloadId = true ∧
    download.mediaId = some record.mediaId

instance (history : History) (downloadId : String) : Decidable (history.Mentions downloadId) :=
  inferInstanceAs (Decidable (∃ record ∈ _, _ = true))

instance (history : History) (download : TrackedDownload) : Decidable (history.Links download) :=
  inferInstanceAs (Decidable (∃ record ∈ _, _ = true ∧ _ = some _))

theorem mentions_iff : history.Mentions downloadId ↔ history.forDownload downloadId ≠ [] := by
  constructor
  · rintro ⟨record, hmem, hconcerns⟩
    exact List.ne_nil_of_mem (mem_forDownload_iff.mpr ⟨hmem, hconcerns⟩)
  · intro hrecords
    obtain ⟨record, hmem⟩ := List.exists_mem_of_ne_nil _ hrecords
    obtain ⟨hmem, hconcerns⟩ := mem_forDownload_iff.mp hmem
    exact ⟨record, hmem, hconcerns⟩

/-- A download without a media item is not linked, whatever the log says. -/
theorem not_links_of_mediaId (h : download.mediaId = none) : ¬ history.Links download := by
  rintro ⟨record, -, -, hrecord⟩
  exact absurd (h.symm.trans hrecord) (Option.some_ne_none record.mediaId).symm

end History

/-- Records tell the media item of one of them. -/
theorem Origin.exists_mediaId_ofRecords (title : String) {records : List HistoryRecord}
    (h : records ≠ []) :
    ∃ record ∈ records, (ofRecords title records).mediaId = some record.mediaId := by
  cases records with
  | nil => exact absurd rfl h
  | cons latest records =>
    refine ⟨((latest :: records).find? (·.event == .grabbed)).getD latest, ?_, rfl⟩
    cases hgrabbed : (latest :: records).find? (·.event == .grabbed) with
    | none => exact List.mem_cons_self
    | some grabbed => exact List.mem_of_find?_eq_some hgrabbed

/-! ### The two parts of a poll -/

namespace Report

variable {report : Report} {after : Desk σ} {key : TrackingKey}

/-- The first part: the origins of the downloads that are not tracked are looked up. -/
def lookUp (report : Report) (desk : Desk σ) : List Sighting :=
  (report.against desk.history).sightings desk.tracked

/-- The second part: the reports are taken in, and what is no longer reported is gone. -/
def settle (report : Report) (sightings : List Sighting) (desk : Desk σ) : Desk σ :=
  let reported :=
    (applySightings report.client report.protocol report.now sightings desk.tracked).1
  { desk with
    tracked := (reported.markGone report.client (reportedKeys report.client report.items)).1 }

/-- **One part right after the other is a poll.** -/
theorem settle_lookUp (report : Report) (setup : Setup σ) (desk : Desk σ) :
    report.settle (report.lookUp desk) desk = (DeskEvent.poll report).apply setup desk := rfl

theorem settle_tracked_sound (h : after.tracked.Sound) (sightings : List Sighting) :
    (report.settle sightings after).tracked.Sound :=
  h.applySightings.markGone report.client (reportedKeys report.client report.items)

/-- What is made known: the origin of a tracked download stays, and that of any other is brought by
its first report. -/
theorem origin_lookup?_settle (report : Report) (sightings : List Sighting) (desk : Desk σ)
    (key : TrackingKey) :
    ((report.settle sightings desk).tracked.lookup? key).map (·.origin) =
      ((desk.tracked.lookup? key).map (·.origin)).or
        ((sightings.find? (reports report.client key ·.item)).map brought) := by
  rw [settle, lookup?_markGone, Option.map_map, ← origin_lookup?_applySightings]
  exact Option.map_congr fun download _ => download.origin_miss _ _

/-- A report brings what the log told at the look-up, or only its title if the download was tracked
then. -/
theorem brought_lookUp (report : Report) (desk : Desk σ) (key : TrackingKey) :
    ((report.lookUp desk).find? (reports report.client key ·.item)).map brought =
      (report.first? key).map fun item =>
        if (desk.tracked.lookup? key).isSome then .ofTitle item.title
        else .ofLog desk.history item := by
  have hsightings : report.lookUp desk =
      report.items.map (toldSighting desk.history desk.tracked report.client) :=
    resolveAll_ofHistory desk.history desk.tracked report.client report.items
  rw [hsightings, List.find?_map, Option.map_map]
  refine Option.map_congr fun item hitem => ?_
  have hkey : TrackingKey.of report.client item.downloadId = key :=
    beq_iff_eq.mp (List.find?_some hitem : reports report.client key item = true)
  subst hkey
  cases hlookup : desk.tracked.lookup? (.of report.client item.downloadId) with
  | none => exact brought_toldSighting hlookup
  | some download =>
    rw [Function.comp_apply, brought, toldSighting, hlookup]
    rfl

/-- **What a poll makes known of a download that it brings in.** -/
theorem origin_inserted (report : Report) (before : Desk σ)
    (hnew : after.tracked.lookup? key = none) :
    ((report.settle (report.lookUp before) after).tracked.lookup? key).map (·.origin) =
      (report.first? key).map fun item =>
        if (before.tracked.lookup? key).isSome then .ofTitle item.title
        else .ofLog before.history item := by
  rw [origin_lookup?_settle, hnew, brought_lookUp]
  rfl

end Report

/-! ### Races -/

namespace Desk

variable {setup : Setup σ} {report : Report} {before after : Desk σ} {entry : TrackedDownload}

/-- A poll during which other things happen. -/
def racingPoll (setup : Setup σ) (report : Report) (between : List (DeskEvent σ)) (desk : Desk σ) :
    Desk σ :=
  report.settle (report.lookUp desk) (desk.run setup between)

/-- The poll links what it brings in, if the log mentions it by then. -/
def LinksInserted (setup : Setup σ) (report : Report) (between : List (DeskEvent σ))
    (desk : Desk σ) : Prop :=
  let after := desk.run setup between
  ∀ entry ∈ (desk.racingPoll setup report between).tracked.downloads,
    after.tracked.lookup? entry.key = none → after.history.Mentions entry.item.downloadId →
      after.history.Links entry

instance (setup : Setup σ) (report : Report) (between : List (DeskEvent σ)) (desk : Desk σ) :
    Decidable (desk.LinksInserted setup report between) :=
  inferInstanceAs (Decidable (∀ entry ∈ _, _ = none → History.Mentions _ _ → History.Links _ _))

/-- **The media item of a download that a poll brings in** is the one that the log told at the
look-up, or none if the download was tracked then. -/
theorem exists_first_of_inserted
    (hentry : (report.settle (report.lookUp before) after).tracked.lookup? entry.key = some entry)
    (hnew : after.tracked.lookup? entry.key = none) :
    ∃ item, report.first? entry.key = some item ∧
      entry.mediaId = if (before.tracked.lookup? entry.key).isSome then none
        else (Origin.ofLog before.history item).mediaId := by
  have horigin := report.origin_inserted before hnew
  rw [hentry, Option.map_some] at horigin
  obtain ⟨item, hfirst, heq⟩ := Option.map_eq_some_iff.mp horigin.symm
  have hmedia : entry.mediaId = entry.origin.mediaId := rfl
  refine ⟨item, hfirst, ?_⟩
  rw [hmedia, ← heq]
  split <;> rfl

/-- The log is only written at the end, so that a link that was found stays one. -/
theorem links_iff_of_mediaId {item : DownloadItem} (hextends : before.Extends after)
    (hmedia : entry.mediaId = if (before.tracked.lookup? entry.key).isSome then none
      else (Origin.ofLog before.history item).mediaId)
    (hspelled : Text.equalIgnoringCase item.downloadId entry.item.downloadId = true) :
    after.history.Links entry ↔ before.tracked.lookup? entry.key = none ∧
      before.history.Mentions entry.item.downloadId := by
  rw [Origin.ofLog, History.forDownload_congr hspelled] at hmedia
  cases hlookup : before.tracked.lookup? entry.key with
  | some download =>
    rw [hlookup, Option.isSome_some, if_pos rfl] at hmedia
    exact iff_of_false (History.not_links_of_mediaId hmedia)
      fun h => absurd h.1 (Option.some_ne_none download)
  | none =>
    rw [hlookup, Option.isSome_none, if_neg Bool.false_ne_true] at hmedia
    rw [and_iff_right rfl, History.mentions_iff]
    by_cases hrecords : before.history.forDownload entry.item.downloadId = []
    · -- there was nothing but the title
      rw [hrecords] at hmedia
      exact iff_of_false (History.not_links_of_mediaId hmedia) (not_not.mpr hrecords)
    · obtain ⟨record, hmem, hrecord⟩ := Origin.exists_mediaId_ofRecords item.title hrecords
      obtain ⟨hmem, hconcerns⟩ := History.mem_forDownload_iff.mp hmem
      exact iff_of_true
        ⟨record, hextends.history.subset hmem, hconcerns, hmedia.trans hrecord⟩ hrecords

/-- **When a poll links what it brings in.**  Whatever happens before the poll and between its two
parts, a download that it brings in is for the media item that the log told of its first report at
the look-up, and for none if it was tracked then.  If that report spells its number alike, the
download is linked exactly if it was not tracked at the look-up and the log mentioned it then; what
is written in between plays no part. -/
theorem links_inserted_iff {clients : σ} {earlier between : List (DeskEvent σ)}
    (hmem : entry ∈ (((blank clients).run setup earlier).racingPoll setup report
      between).tracked.downloads)
    (hnew : (((blank clients).run setup earlier).run setup between).tracked.lookup? entry.key =
      none) :
    let before := (blank clients).run setup earlier
    let after := before.run setup between
    ∃ item, report.first? entry.key = some item ∧
      (entry.mediaId = if (before.tracked.lookup? entry.key).isSome then none
        else (Origin.ofLog before.history item).mediaId) ∧
      (Text.equalIgnoringCase item.downloadId entry.item.downloadId = true →
        (after.history.Links entry ↔ before.tracked.lookup? entry.key = none ∧
          before.history.Mentions entry.item.downloadId)) := by
  intro before after
  have hbefore : before.Sound := run_sound setup earlier (.blank clients)
  have hafter : after.Sound := run_sound setup between hbefore
  have hentry : (before.racingPoll setup report between).tracked.lookup? entry.key = some entry :=
    (Report.settle_tracked_sound hafter.tracked (report.lookUp before)).lookup?_key hmem
  obtain ⟨item, hfirst, hmedia⟩ := exists_first_of_inserted hentry hnew
  exact ⟨item, hfirst, hmedia,
    links_iff_of_mediaId (run_extends setup between hbefore) hmedia⟩

/-! ### One client -/

/-- A client reports downloads that are under way. -/
def underWay (numbers : List String) : Report :=
  ⟨"sab", .usenet, numbers.map itemUnderWay, 0⟩

/-- What the log told at the look-up is kept while the log goes on. -/
theorem sab_linked :
    let before := (blank [sab]).run sabSetup [.record (grabbedRecord "sab-1" 0)]
    let between := [.record (grabbedRecord "sab-2" 0)]
    let entry := (underWay ["sab-1"]).newcomer before.history (.download 0) (itemUnderWay "sab-1")
    entry ∈ (before.racingPoll sabSetup (underWay ["sab-1"]) between).tracked.downloads ∧
      (before.run sabSetup between).history.Links entry := by
  intro before between entry
  have hmem : entry ∈
      (before.racingPoll sabSetup (underWay ["sab-1"]) between).tracked.downloads := by
    decide +kernel
  have hnew : (before.run sabSetup between).tracked.lookup? entry.key = none := rfl
  obtain ⟨item, hfirst, -, hlinks⟩ := links_inserted_iff hmem hnew
  obtain rfl : itemUnderWay "sab-1" = item := by
    have hreported : (underWay ["sab-1"]).first? entry.key = some (itemUnderWay "sab-1") := by
      decide +kernel
    exact Option.some.inj (hreported.symm.trans hfirst)
  exact ⟨hmem, (hlinks (Text.equalIgnoringCase_refl "sab-1")).mpr ⟨rfl, by decide +kernel⟩⟩

/-- A download may lose its media item although the log mentions it: it is ignored between the two
parts of a poll, or it is reported behind another one whose number differs in the case of a letter
outside ASCII. -/
theorem not_linksInserted :
    ¬ ((blank [sab]).run sabSetup (reportedRun "sab-1")).LinksInserted sabSetup
        (underWay ["sab-1"]) [.remove 0 (.download 0) ⟨false, false⟩] ∧
      ¬ ((blank [sab]).run sabSetup [.record (grabbedRecord "SAB-é" 0)]).LinksInserted sabSetup
        (underWay ["SAB-É", "SAB-é"]) [] := by
  decide +kernel

end Desk

end Acquisition
