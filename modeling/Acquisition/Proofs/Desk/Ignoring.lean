import Acquisition.Proofs.Desk.Refreshing
import Acquisition.Proofs.Text.Case

/-!
# Ignored downloads

A download that is removed from the queue and neither deleted nor blocked is still on its client.  It
stays hidden because the log says that it is ignored: the next report of it starts to track it anew, and
its state is what the log tells.

The log is asked for the number as the client spells it, up to the case of ASCII letters, while what is
tracked is found by the full lower case of the number.  Another number with the same lower case is
another number to the log and the same one to the queue, and through it the download can come back.

## Main definitions

* `Desk.Hides`: no queue shows the download.
* `Desk.Throughout`, `Timely`: conditions on the events of a run.
* `DeskEvent.Quiet`, `DeskEvent.Spells`: what may happen around an ignored download.
* `Desk.Ignored`: the invariant that keeps the download hidden.

## Main results

* `Desk.Ignored.step`, `Desk.Ignored.run`: one event keeps it, and so does a run.
* `Desk.ignored_stays_hidden`: **when an ignored download stays hidden.**
-/

namespace Acquisition

open TrackedDownloads

variable {σ : Type}

/-! ### Conditions on runs -/

namespace DeskEvent

/-- The event may happen at the time: it says so itself, or writes a record that is not dated
later. -/
def At (time : Instant) : DeskEvent σ → Prop
  | refresh now | grab now _ | process now _ | search now _ _ | retry now | remove now _ _
  | setAside _ _ now => now = time
  | .poll report => report.now = time
  | record entry => entry.date ≤ time
  | elsewhere _ _ _ | block _ | letGo _ | setState _ _ | stop _ => True

/-- The reports that the event brings. -/
def heard (setup : Setup σ) : DeskEvent σ → Desk σ → List Report
  | refresh now, desk => answers now setup.registry desk.clients
  | .poll report, _ => [report]
  | _, _ => []

/-- The event leaves a download alone: nothing new is written about its number, and nobody sets the
state of what is tracked under its key. -/
structure Quiet (setup : Setup σ) (key : TrackingKey) (downloadId : String) (event : DeskEvent σ)
    (desk : Desk σ) : Prop where
  unwritten : (event.apply setup desk).history.forDownload downloadId =
    desk.history.forDownload downloadId
  unset : ∀ id state, event = .setState id state →
    ∀ download, desk.tracked.lookup? key = some download → download.id ≠ id

/-- Every report of the download under the key gives the number, up to the case of ASCII letters. -/
def Spells (setup : Setup σ) (key : TrackingKey) (downloadId : String) (event : DeskEvent σ)
    (desk : Desk σ) : Prop :=
  ∀ report ∈ event.heard setup desk, ∀ item ∈ report.items,
    reports report.client key item = true → Text.equalIgnoringCase item.downloadId downloadId = true

end DeskEvent

/-- The clock never goes back, and no record is dated later than it is written. -/
def Timely : Instant → List (DeskEvent σ) → Prop
  | _, [] => True
  | clock, event :: events => ∃ time, clock ≤ time ∧ event.At time ∧ Timely time events

namespace Desk

/-- Every event of the run meets the condition at the desk at which it happens. -/
def Throughout (setup : Setup σ) (condition : DeskEvent σ → Desk σ → Prop) :
    List (DeskEvent σ) → Desk σ → Prop
  | [], _ => True
  | event :: events, desk =>
    condition event desk ∧ Throughout setup condition events (event.apply setup desk)

/-- No queue, at any time, shows the download under its client, in whatever case the name of the client
is written, and the number up to the case of ASCII letters. -/
def Hides (setup : Setup σ) (client downloadId : String) (desk : Desk σ) : Prop :=
  ∀ now, ∀ shown ∈ desk.queue setup now, ∀ name number, shown.client = some name →
    shown.downloadId = some number → Text.lowercase name = Text.lowercase client →
      Text.equalIgnoringCase number downloadId = false

/-! ### What keeps a download hidden -/

/-- The log says that the download is ignored, and so is what is tracked under its key, if
anything. -/
structure Ignored (key : TrackingKey) (downloadId : String) (desk : Desk σ) : Prop where
  told : desk.history.tells downloadId = .ignored
  kept : ∀ download, desk.tracked.lookup? key = some download → download.state = .ignored

end Desk

theorem History.tells_congr {first second : String}
    (hsame : Text.equalIgnoringCase first second = true) (history : History) :
    history.tells first = history.tells second := by
  rw [tells, tells, forDownload_congr hsame]

/-- A record that is written last, and dated before none, says what is told. -/
theorem History.tells_append {history : History} {record : HistoryRecord} {downloadId : String}
    (hconcerns : record.concerns downloadId = true)
    (hdates : ∀ other ∈ history.records, other.date ≤ record.date) :
    (history.append record).tells downloadId = .ofEvent record.event := by
  have hlatest : ∀ other ∈ history.records, other.concerns downloadId = true →
      record.notBefore other = true :=
    fun other hmem _ => HistoryRecord.notBefore_iff.mpr (hdates other hmem)
  rw [tells, forDownload, newestFirst_append hconcerns hlatest]
  rfl

/-- A record of another download is not told. -/
theorem History.forDownload_append_of_not {record : HistoryRecord} {downloadId : String}
    (hother : record.concerns downloadId = false) (history : History) :
    (history.append record).forDownload downloadId = history.forDownload downloadId := by
  rw [forDownload, forDownload, newestFirst, newestFirst, append, List.filter_append,
    List.filter_singleton, hother, cond_false, List.append_nil]

/-- What is found after a download was given up was found before. -/
theorem TrackedDownloads.Sound.lookup?_of_stop {tracked : TrackedDownloads} (hsound : tracked.Sound)
    {key : TrackingKey} {id : QueueItemId} {later : TrackedDownload}
    (h : (tracked.stopTracking id).2.lookup? key = some later) :
    tracked.lookup? key = some later := by
  have hmem := (List.mem_filter.mp (mem_of_lookup? h)).1
  have hbefore := hsound.lookup?_key hmem
  rwa [key_of_lookup? h] at hbefore

namespace Desk

variable {setup : Setup σ} {key : TrackingKey} {downloadId : String} {desk : Desk σ}

/-- **One event keeps the download ignored.**  A report that starts to track it anew is told by the
log that it is ignored. -/
theorem Ignored.step (hsound : desk.Sound) (h : desk.Ignored key downloadId)
    {event : DeskEvent σ} (hquiet : event.Quiet setup key downloadId desk)
    (hspells : event.Spells setup key downloadId desk) :
    (event.apply setup desk).Ignored key downloadId where
  told := by
    rw [History.tells, hquiet.unwritten]
    exact h.told
  kept := by
    have htold : ∀ report ∈ event.heard setup desk, ∀ item ∈ report.items,
        reports report.client key item = true →
          (Origin.ofLog desk.history item).state = .ignored := by
      intro report hreport item hitem hreports
      rw [Origin.ofLog_state, History.tells_congr (hspells report hreport item hitem hreports)]
      exact h.told
    rw [event.apply_tracked hsound]
    cases event with
    | refresh now =>
      exact origin_takeIn (p := fun origin => origin.state = .ignored) htold h.kept
    | poll report =>
      exact Report.origin_of_tells (p := fun origin => origin.state = .ignored)
        (htold report (List.mem_singleton_self report)) h.kept
    | remove now id removal =>
      rw [DeskEvent.calls]
      split
      · exact fun later hlater => h.kept later (hsound.tracked.lookup?_of_stop hlater)
      · exact h.kept
    | setState id state =>
      -- the state that is set is not the one of this download
      intro later hlater
      have hafter : (desk.tracked.setState id state).2.lookup? key =
          (desk.tracked.lookup? key).map fun download =>
            if download.id == id then { download with state } else download :=
        lookup?_map (fun other => (advances_setState id state other).same.key) desk.tracked key
      have hfound : (desk.tracked.setState id state).2.lookup? key = some later := hlater
      rw [hafter] at hfound
      obtain ⟨download, hdownload, rfl⟩ := Option.map_eq_some_iff.mp hfound
      have hother : download.id ≠ id := hquiet.unset id state rfl download hdownload
      rw [if_neg]
      · exact h.kept download hdownload
      · rw [beq_iff_eq]
        exact hother
    | stop id => exact fun later hlater => h.kept later (hsound.tracked.lookup?_of_stop hlater)
    | _ => exact h.kept

/-- **A run keeps the download ignored**, if every event of it does. -/
theorem Ignored.run : ∀ {events : List (DeskEvent σ)} {desk : Desk σ}, desk.Sound →
    desk.Ignored key downloadId →
    desk.Throughout setup (DeskEvent.Quiet setup key downloadId) events →
    desk.Throughout setup (DeskEvent.Spells setup key downloadId) events →
    (desk.run setup events).Ignored key downloadId := by
  intro events
  induction events with
  | nil => exact fun _ h _ _ => h
  | cons event events ih =>
    intro desk hsound h hquiet hspells
    obtain ⟨hfirst, hquiet⟩ := hquiet
    obtain ⟨hspelled, hspells⟩ := hspells
    exact ih (event.apply_sound hsound setup) (h.step hsound hfirst hspelled) hquiet hspells

/-- **What is ignored is not shown.** -/
theorem Ignored.hides {client : String} (hsound : desk.Sound)
    (h : desk.Ignored (.of client downloadId) downloadId) : desk.Hides setup client downloadId := by
  intro now shown hshown name number hname hnumber hclient
  rcases List.mem_append.mp hshown with hmem | hmem
  · obtain ⟨download, hvisible, rfl⟩ := List.mem_map.mp hmem
    obtain ⟨htracked, hvisible⟩ := mem_visible_iff.mp hvisible
    obtain rfl : download.client = name := Option.some.inj hname
    obtain rfl : download.item.downloadId = number := Option.some.inj hnumber
    cases hsame : Text.equalIgnoringCase download.item.downloadId downloadId with
    | false => rfl
    | true =>
      -- it would be found under the key, and what is found there is ignored
      have hkey : download.key = .of client downloadId :=
        Prod.ext hclient (Text.lowercase_eq_of_equalIgnoringCase hsame)
      have hlookup := hsound.tracked.lookup?_key htracked
      have hstate := h.kept download (hkey ▸ hlookup)
      rw [TrackedDownload.isVisible, hstate, bne_self_eq_false, Bool.and_false] at hvisible
      exact absurd hvisible Bool.false_ne_true
  · obtain ⟨release, -, rfl⟩ := List.mem_map.mp hmem
    exact absurd hname (Option.some_ne_none name).symm

/-! ### Ignoring a download -/

variable {download : TrackedDownload} {now : Instant}

/-- A download that is ignored is written down as such, and no longer tracked. -/
theorem remove_ignores (hsound : desk.Sound) (hmem : download ∈ desk.tracked.downloads)
    (hremove : (desk.remove setup now download.id ⟨false, false⟩).1 = .ok ()) :
    let after := (desk.remove setup now download.id ⟨false, false⟩).2
    (∃ mediaId, after.history =
        desk.history.append
          (downloadRecord download mediaId .downloadIgnored "Manually ignored" now)) ∧
      after.tracked.lookup? download.key = none := by
  have hremoves := remove_removes hsound.tracked hsound.pending setup now download.id ⟨false, false⟩
  have htracked := hremoves.tracked_eq hsound.tracked
  rw [hremove] at hremoves htracked
  refine ⟨?_, ?_⟩
  · generalize (desk.remove setup now download.id ⟨false, false⟩).2 = after at hremoves
    cases hremoves with
    | @pending front back release hothers hsplit hid =>
      exact absurd rfl (hothers download hmem)
    | @download front back other clients hpending hsplit hid hlinked hasks =>
      have hother : other ∈ desk.tracked.downloads := by
        rw [hsplit]
        exact List.mem_append_right _ List.mem_cons_self
      obtain rfl : other = download := List.inj_on_of_nodup_map hsound.tracked.ids hother hmem hid
      obtain ⟨mediaId, hmedia⟩ := Option.ne_none_iff_exists'.mp (hlinked rfl)
      refine ⟨mediaId, ?_⟩
      rw [removalRecords, hmedia]
      rfl
  · rw [htracked, Except.toBool, if_pos rfl]
    cases hlookup : (desk.tracked.stopTracking download.id).2.lookup? download.key with
    | none => rfl
    | some later =>
      -- it would be the download itself
      have hbefore := hsound.tracked.lookup?_of_stop hlookup
      rw [hsound.tracked.lookup?_key hmem] at hbefore
      obtain rfl : download = later := Option.some.inj hbefore
      have hkept := (List.mem_filter.mp (mem_of_lookup? hlookup)).2
      rw [bne_self_eq_false] at hkept
      exact absurd hkept Bool.false_ne_true

/-- A download of a known media item can be ignored. -/
theorem remove_ok_of_media {mediaId : MediaId} (hsound : desk.Sound)
    (hmem : download ∈ desk.tracked.downloads) (hmedia : download.mediaId = some mediaId) :
    (desk.remove setup now download.id ⟨false, false⟩).1 = .ok () := by
  have hremoves := remove_removes hsound.tracked hsound.pending setup now download.id ⟨false, false⟩
  generalize (desk.remove setup now download.id ⟨false, false⟩).1 = result at hremoves
  generalize (desk.remove setup now download.id ⟨false, false⟩).2 = after at hremoves
  cases hremoves with
  | unknown hpending htracked => exact absurd rfl (htracked download hmem)
  | @unlinked other hpending hother hid hignored hnone =>
    obtain rfl : other = download := List.inj_on_of_nodup_map hsound.tracked.ids hother hmem hid
    rw [hmedia] at hnone
    exact absurd hnone (Option.some_ne_none mediaId)
  | unowned hpending hother hid hdeleted hnone => exact absurd hdeleted Bool.false_ne_true
  | refused hpending hother hid hasks => cases hasks
  | pending => rfl
  | download => rfl

/-- **Once it is removed, the download is ignored**: nothing is tracked under its key, and the record of
the removal is the latest one. -/
theorem ignored_of_remove (hsound : desk.Sound) (hmem : download ∈ desk.tracked.downloads)
    (hdates : ∀ record ∈ desk.history.records, record.date ≤ now)
    (hremove : (desk.remove setup now download.id ⟨false, false⟩).1 = .ok ()) :
    (desk.remove setup now download.id ⟨false, false⟩).2.Ignored download.key
      download.item.downloadId := by
  obtain ⟨⟨mediaId, hhistory⟩, hfree⟩ := remove_ignores hsound hmem hremove
  refine ⟨?_, fun later hlater => ?_⟩
  · rw [hhistory]
    refine History.tells_append ?_ hdates
    exact Text.equalIgnoringCase_refl download.item.downloadId
  · rw [hfree] at hlater
    exact absurd hlater (Option.some_ne_none later).symm

/-- The record of it is dated now. -/
theorem dates_of_remove (hsound : desk.Sound) (hmem : download ∈ desk.tracked.downloads)
    (hdates : ∀ record ∈ desk.history.records, record.date ≤ now)
    (hremove : (desk.remove setup now download.id ⟨false, false⟩).1 = .ok ()) :
    ∀ record ∈ (desk.remove setup now download.id ⟨false, false⟩).2.history.records,
      record.date ≤ now := by
  obtain ⟨⟨mediaId, hhistory⟩, -⟩ := remove_ignores hsound hmem hremove
  intro record hrecord
  rw [hhistory, History.append, List.mem_append, List.mem_singleton] at hrecord
  rcases hrecord with hrecord | rfl
  · exact hdates record hrecord
  · exact Int.le_refl now

/-! ### Another number with the same key -/

/-- The log says that a download was grabbed. -/
def grabbedRecord (downloadId : String) (now : Instant) : HistoryRecord :=
  { (default : HistoryRecord) with
    event := .grabbed
    downloadId := some downloadId
    date := now }

/-- A download under way, as its client reports it. -/
def itemUnderWay (downloadId : String) : DownloadItem :=
  { (default : DownloadItem) with
    downloadId
    status := .downloading }

/-- The client reports a download that was grabbed, and behind it the one that is ignored. -/
def aliasReport (download : TrackedDownload) (other : String) (now : Instant) : Report where
  client := download.client
  protocol := download.protocol
  items := [itemUnderWay other, itemUnderWay download.item.downloadId]
  now

/-- Another download is grabbed and reported along with the one that is ignored. -/
def aliasRun (download : TrackedDownload) (other : String) (now : Instant) : List (DeskEvent σ) :=
  [.record (grabbedRecord other now), .poll (aliasReport download other now)]

theorem aliasRun_timely (download : TrackedDownload) (other : String) (now : Instant) :
    Timely now (aliasRun download other now : List (DeskEvent σ)) :=
  ⟨now, Int.le_refl now, Int.le_refl now, now, Int.le_refl now, rfl, trivial⟩

/-- Another number, to the log, is no news of the download. -/
theorem aliasRun_quiet {other : String} (download : TrackedDownload) (now : Instant) (desk : Desk σ)
    (hother : Text.equalIgnoringCase other download.item.downloadId = false) :
    desk.Throughout setup (DeskEvent.Quiet setup download.key download.item.downloadId)
      (aliasRun download other now) := by
  have hconcerns : (grabbedRecord other now).concerns download.item.downloadId = false := hother
  refine ⟨⟨?_, fun id state hevent => nomatch hevent⟩,
    ⟨rfl, fun id state hevent => nomatch hevent⟩, trivial⟩
  exact History.forDownload_append_of_not hconcerns desk.history

/-- **A number with the same lower case brings the download back.**  What is tracked under the shared
key is what the log tells of the other number; the report of the ignored one then only updates it. -/
theorem not_hides_aliasRun {other : String}
    (hfree : desk.tracked.lookup? download.key = none)
    (hdates : ∀ record ∈ desk.history.records, record.date ≤ now)
    (hsame : Text.lowercase other = Text.lowercase download.item.downloadId) :
    ¬ (desk.run setup (aliasRun download other now)).Hides setup download.client
      download.item.downloadId := by
  intro hhides
  let history := desk.history.append (grabbedRecord other now)
  let report := aliasReport download other now
  let first := itemUnderWay other
  let second := itemUnderWay download.item.downloadId
  have hfirst : reports report.client download.key first = true := by
    rw [reports, beq_iff_eq]
    exact Prod.ext rfl hsame
  have hsecond : reports report.client download.key second = true :=
    beq_self_eq_true download.key
  have hreports : ∀ item ∈ [first, second], reports report.client download.key item = true :=
    List.forall_mem_cons.mpr ⟨hfirst, List.forall_mem_singleton.mpr hsecond⟩
  obtain ⟨id, hlookup⟩ := report.exists_lookup?_eq_leaves history desk.tracked download.key
  rw [hfree, Report.leaves_none_of_forall_reports rfl hreports] at hlookup
  let found := (report.newcomer history id first).update second
  have hfound : (desk.run setup (aliasRun download other now)).tracked.lookup? download.key =
      some found := hlookup
  have hvisible : found.isVisible = true := by
    have hstate : found.state = .downloading := by
      have htold : history.tells other = .ofEvent .grabbed :=
        History.tells_append (Text.equalIgnoringCase_refl other) hdates
      exact (Origin.ofLog_state history first).trans htold
    have hstatus : found.status = .downloading := rfl
    rw [TrackedDownload.isVisible, hstate, hstatus]
    rfl
  have hshown : QueueItem.ofDownload now found ∈
      (desk.run setup (aliasRun download other now)).queue setup now :=
    List.mem_append_left _ (List.mem_map_of_mem
      (mem_visible_iff.mpr ⟨mem_of_lookup? hfound, hvisible⟩))
  have hhidden := hhides now _ hshown _ _ rfl rfl rfl
  have hself : Text.equalIgnoringCase download.item.downloadId download.item.downloadId = true :=
    Text.equalIgnoringCase_refl _
  exact absurd (hself.symm.trans hhidden) Bool.true_eq_false.mp

/-! ### When an ignored download stays hidden -/

theorem throughout_of_forall {condition : DeskEvent σ → Desk σ → Prop}
    (h : ∀ event desk, condition event desk) : ∀ (events : List (DeskEvent σ)) (desk : Desk σ),
      desk.Throughout setup condition events := by
  intro events
  induction events with
  | nil => exact fun _ => trivial
  | cons event events ih => exact fun desk => ⟨h event desk, ih _⟩

/-- **When an ignored download stays hidden.**  After a download is ignored, and while nothing new is
written about it and nobody sets its state, no queue shows it, as long as its client spells its number
as before, up to the case of ASCII letters.  However the client spells it, it stays hidden exactly if
there is no other number with the same lower case. -/
theorem ignored_stays_hidden {setup : Setup σ} {clients : σ} {earlier : List (DeskEvent σ)}
    {now : Instant} {download : TrackedDownload}
    (hmem : download ∈ ((blank clients).run setup earlier).tracked.downloads)
    (hdates : ∀ record ∈ ((blank clients).run setup earlier).history.records, record.date ≤ now)
    (hremove : (((blank clients).run setup earlier).remove setup now download.id
      ⟨false, false⟩).1 = .ok ()) :
    let after := (((blank clients).run setup earlier).remove setup now download.id
      ⟨false, false⟩).2
    let quiet := DeskEvent.Quiet setup download.key download.item.downloadId
    (∀ later, after.Throughout setup quiet later →
        after.Throughout setup (DeskEvent.Spells setup download.key download.item.downloadId)
          later →
        (after.run setup later).Hides setup download.client download.item.downloadId) ∧
      ((∀ later, Timely now later → after.Throughout setup quiet later →
          (after.run setup later).Hides setup download.client download.item.downloadId) ↔
        ∀ other, Text.lowercase other = Text.lowercase download.item.downloadId →
          Text.equalIgnoringCase other download.item.downloadId = true) := by
  intro after quiet
  have hbefore : ((blank clients).run setup earlier).Sound := run_sound setup earlier (.blank clients)
  have hsound : after.Sound :=
    DeskEvent.apply_sound hbefore setup (.remove now download.id ⟨false, false⟩)
  have hignored := ignored_of_remove hbefore hmem hdates hremove
  have hspelled : ∀ later, after.Throughout setup quiet later →
      after.Throughout setup (DeskEvent.Spells setup download.key download.item.downloadId) later →
      (after.run setup later).Hides setup download.client download.item.downloadId := by
    intro later hquiet hspells
    exact (hignored.run hsound hquiet hspells).hides (run_sound setup later hsound)
  refine ⟨hspelled, fun hhides other hsame => ?_, fun halone later _ hquiet => ?_⟩
  · -- any other number would bring the download back
    obtain ⟨-, hfree⟩ := remove_ignores hbefore hmem hremove
    have hlatest := dates_of_remove hbefore hmem hdates hremove
    cases hother : Text.equalIgnoringCase other download.item.downloadId with
    | true => rfl
    | false =>
      have hhidden := hhides (aliasRun download other now) (aliasRun_timely download other now)
        (aliasRun_quiet download now after hother)
      exact absurd hhidden (not_hides_aliasRun hfree hlatest hsame)
  · refine hspelled later hquiet (throughout_of_forall (fun event desk => ?_) later after)
    intro report _ item _ hreports
    have hkey : TrackingKey.of report.client item.downloadId = download.key := beq_iff_eq.mp hreports
    exact halone item.downloadId (congrArg Prod.snd hkey)

/-! ### A download that is grabbed and reported -/

/-- The log says that a download was grabbed, and the client reports it. -/
def reportedRun (number : String) : List (DeskEvent (List MemoryClient)) :=
  [.record (grabbedRecord number 0), .poll ⟨"sab", .usenet, [itemUnderWay number], 0⟩]

/-- The download can be ignored. -/
theorem exists_reported (number : String) :
    let before := (blank [sab]).run sabSetup (reportedRun number)
    ∃ download ∈ before.tracked.downloads, download.client = "sab" ∧
      download.item.downloadId = number ∧
      (∀ record ∈ before.history.records, record.date ≤ 1) ∧
      (before.remove sabSetup 1 download.id ⟨false, false⟩).1 = .ok () := by
  intro before
  let history := History.empty.append (grabbedRecord number 0)
  let report : Report := ⟨"sab", .usenet, [itemUnderWay number], 0⟩
  have hreports : ∀ item ∈ [itemUnderWay number],
      reports report.client (.of "sab" number) item = true :=
    List.forall_mem_singleton.mpr (beq_self_eq_true (TrackingKey.of "sab" number))
  obtain ⟨id, hlookup⟩ := report.exists_lookup?_eq_leaves history .empty (.of "sab" number)
  have hfree : TrackedDownloads.empty.lookup? (.of "sab" number) = none := rfl
  rw [hfree, Report.leaves_none_of_forall_reports rfl hreports] at hlookup
  let download := report.newcomer history id (itemUnderWay number)
  have hmem : download ∈ before.tracked.downloads := mem_of_lookup? hlookup
  have hmedia : download.mediaId = some (grabbedRecord number 0).mediaId := by
    have htold : history.forDownload number = [grabbedRecord number 0] := by
      have hconcerns : (grabbedRecord number 0).concerns number = true :=
        Text.equalIgnoringCase_refl number
      have hnone : ∀ other ∈ History.empty.records, other.concerns number = true →
          (grabbedRecord number 0).notBefore other = true :=
        fun other hother => absurd hother List.not_mem_nil
      rw [History.forDownload, History.newestFirst_append hconcerns hnone,
        History.newestFirst_empty]
    have horigin : download.mediaId = (Origin.ofLog history (itemUnderWay number)).mediaId := rfl
    have hnumber : (itemUnderWay number).downloadId = number := rfl
    rw [horigin, Origin.ofLog, hnumber, htold]
    rfl
  refine ⟨download, hmem, rfl, rfl, ?_, ?_⟩
  · exact List.forall_mem_singleton.mpr (show (0 : Int) ≤ 1 by decide)
  · exact remove_ok_of_media (run_sound sabSetup (reportedRun number) (.blank [sab])) hmem hmedia

/-- The download is ignored, and stays hidden. -/
theorem sab_stays_hidden :
    let before := (blank [sab]).run sabSetup (reportedRun "sab-1")
    ∃ download ∈ before.tracked.downloads,
      let after := (before.remove sabSetup 1 download.id ⟨false, false⟩).2
      ∀ later, after.Throughout sabSetup (DeskEvent.Quiet sabSetup download.key "sab-1") later →
        after.Throughout sabSetup (DeskEvent.Spells sabSetup download.key "sab-1") later →
        (after.run sabSetup later).Hides sabSetup "sab" "sab-1" := by
  intro before
  obtain ⟨download, hmem, hclient, hnumber, hdates, hremove⟩ := exists_reported "sab-1"
  have hhidden := (ignored_stays_hidden hmem hdates hremove).1
  rw [hclient, hnumber] at hhidden
  exact ⟨download, hmem, hhidden⟩

/-- An ignored download may come back: another download of the client is grabbed, whose number differs
in the case of a letter outside ASCII, and is reported ahead of it. -/
theorem not_stays_hidden : ¬ ∀ (setup : Setup (List MemoryClient)) (clients : List MemoryClient)
    (earlier : List (DeskEvent (List MemoryClient))) (now : Instant) (download : TrackedDownload),
    download ∈ ((blank clients).run setup earlier).tracked.downloads →
    (∀ record ∈ ((blank clients).run setup earlier).history.records, record.date ≤ now) →
    (((blank clients).run setup earlier).remove setup now download.id ⟨false, false⟩).1 = .ok () →
    ∀ later : List (DeskEvent (List MemoryClient)), Timely now later →
      let after := (((blank clients).run setup earlier).remove setup now download.id
        ⟨false, false⟩).2
      after.Throughout setup (DeskEvent.Quiet setup download.key download.item.downloadId) later →
      (after.run setup later).Hides setup download.client download.item.downloadId := by
  intro hhides
  obtain ⟨download, hmem, -, hnumber, hdates, hremove⟩ := exists_reported "SAB-É"
  have hsame : Text.lowercase "SAB-é" = Text.lowercase download.item.downloadId := by
    rw [hnumber]
    decide +kernel
  have hother : Text.equalIgnoringCase "SAB-é" download.item.downloadId = false := by
    rw [hnumber]
    decide
  have hhidden := hhides sabSetup [sab] (reportedRun "SAB-É") 1 download hmem hdates hremove
    (aliasRun download "SAB-é" 1) (aliasRun_timely download "SAB-é" 1)
    (aliasRun_quiet download 1 _ hother)
  have hbefore := run_sound sabSetup (reportedRun "SAB-É") (.blank [sab])
  obtain ⟨-, hfree⟩ := remove_ignores hbefore hmem hremove
  have hlatest := dates_of_remove hbefore hmem hdates hremove
  exact absurd hhidden (not_hides_aliasRun hfree hlatest hsame)

end Desk

end Acquisition
