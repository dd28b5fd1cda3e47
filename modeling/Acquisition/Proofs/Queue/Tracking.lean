import Acquisition.Proofs.Queue.Poll
import Mathlib.Data.List.Chain

/-!
# Runs of what is tracked

From nothing, downloads come to be tracked by polls, change by polls and from outside, and are
given up from outside.  The laws hold after any such run, whatever the polls report.

## Main definitions

* `TrackingCall`: a call that changes what is tracked, and the stages that it passes through.
* `Follows`: every download that is not given up is the same, and its status may follow.
* `Continues`: what is left of that over many calls.
* `TrackingLaws`: what holds of the downloads, and of what may happen next to them.

## Main results

* `TrackingCall.isChain_stages`: every stage of a call follows on the one before.
* `run_continues`: a download is the same until it is given up, and once deleted it stays so.
* `run_laws`: the laws hold after any run.
-/

namespace Acquisition

open TrackedDownloads

variable {σ : Type} {tracked : TrackedDownloads}

/-! ### What follows on what -/

/-- Every download but the one that is given up is the same, and its status may follow. -/
def Follows (stopped? : Option QueueItemId) (before after : TrackedDownloads) : Prop :=
  ∀ download ∈ before.downloads, stopped? ≠ some download.id →
    ∃ later ∈ after.downloads, Advances download later

/-- The download is the same, and once deleted it stays so. -/
structure Continues (before after : TrackedDownload) : Prop where
  same : SameDownload before after
  deleted : before.status = .deleted → after.status = .deleted

theorem Continues.refl (download : TrackedDownload) : Continues download download :=
  ⟨.refl download, id⟩

theorem Continues.trans {first second third : TrackedDownload} (h : Continues first second)
    (h' : Continues second third) : Continues first third :=
  ⟨h.same.trans h'.same, h'.deleted ∘ h.deleted⟩

theorem Advances.continues {before after : TrackedDownload} (h : Advances before after) :
    Continues before after := by
  refine ⟨h.same, fun hdeleted => ?_⟩
  have hstatus := h.status
  rw [hdeleted] at hstatus
  exact QueueStatus.eq_deleted_of_canBecome hstatus

/-- Over stages that follow on each other a download is the same, unless it is given up. -/
theorem continues_of_isChain {stopped? : Option QueueItemId} :
    ∀ {stages : List TrackedDownloads} {first last : TrackedDownloads},
      (first :: stages).IsChain (Follows stopped?) → (first :: stages).getLast? = some last →
      ∀ download ∈ first.downloads, stopped? ≠ some download.id →
        ∃ later ∈ last.downloads, Continues download later := by
  intro stages
  induction stages with
  | nil =>
    intro first last _ hlast download hmem _
    obtain rfl : first = last := Option.some.inj hlast
    exact ⟨download, hmem, .refl download⟩
  | cons next stages ih =>
    intro first last hchain hlast download hmem hid
    obtain ⟨hfollows, hchain⟩ := List.isChain_cons_cons.mp hchain
    obtain ⟨middle, hmiddle, hadvances⟩ := hfollows download hmem hid
    rw [← hadvances.same.id] at hid
    rw [List.getLast?_cons_cons] at hlast
    obtain ⟨later, hlater, hcontinues⟩ := ih hchain hlast middle hmiddle hid
    exact ⟨later, hlater, hadvances.continues.trans hcontinues⟩

/-- A change in place follows if it does for every download. -/
theorem Follows.map {f : TrackedDownload → TrackedDownload} (hf : ∀ other, Advances other (f other))
    (stopped? : Option QueueItemId) (tracked : TrackedDownloads) :
    Follows stopped? tracked { tracked with downloads := tracked.downloads.map f } :=
  fun download hmem _ => ⟨f download, List.mem_map_of_mem hmem, hf download⟩

theorem follows_start (client : String) (protocol : Protocol) (now : Instant)
    (item : DownloadItem) (origin : Origin) :
    Follows none tracked (tracked.start client protocol now item origin) :=
  fun download hmem _ => ⟨download, List.mem_append_left _ hmem, .refl download⟩

theorem follows_applySighting (client : String) (protocol : Protocol) (now : Instant)
    (sighting : Sighting) (tracked : TrackedDownloads) :
    Follows none tracked (tracked.applySighting client protocol now sighting).1 := by
  cases hlookup : tracked.lookup? (.of client sighting.item.downloadId) with
  | none =>
    rw [applySighting_of_none hlookup]
    exact follows_start _ _ _ _ _
  | some download =>
    rw [applySighting_of_some hlookup]
    exact .map (fun other => other.sight_advances client sighting.item) none tracked

theorem follows_markGone (tracked : TrackedDownloads) (client : String)
    (seen : List TrackingKey) : Follows none tracked (tracked.markGone client seen).1 :=
  .map (fun other => other.miss_advances client seen) none tracked

theorem advances_setState (id : QueueItemId) (state : TrackedState) (download : TrackedDownload) :
    Advances download (if download.id == id then { download with state } else download) := by
  split
  · exact ⟨⟨rfl, rfl, rfl, rfl, rfl, rfl, rfl⟩, download.status.canBecome_self⟩
  · exact .refl download

theorem follows_stopTracking (tracked : TrackedDownloads) (id : QueueItemId) :
    Follows (some id) tracked (tracked.stopTracking id).2 := by
  intro download hmem hid
  refine ⟨download, List.mem_filter.mpr ⟨hmem, ?_⟩, .refl download⟩
  rw [bne_iff_ne]
  exact fun h => hid (congrArg some h.symm)

/-! ### Calls -/

/-- A call that changes what is tracked. -/
inductive TrackingCall (σ : Type)
  | poll (report : Poll σ)
  | setState (id : QueueItemId) (state : TrackedState)
  | stop (id : QueueItemId)

/-- What is tracked after each report, one after the other. -/
def sightingStages (client : String) (protocol : Protocol) (now : Instant) :
    List Sighting → TrackedDownloads → List TrackedDownloads
  | [], _ => []
  | sighting :: sightings, tracked =>
    let next := (tracked.applySighting client protocol now sighting).1
    next :: sightingStages client protocol now sightings next

namespace TrackingCall

/-- The download that the call gives up. -/
def stopped? : TrackingCall σ → Option QueueItemId
  | stop id => some id
  | _ => none

/-- What is tracked after the call. -/
def apply : TrackingCall σ → TrackedDownloads → TrackedDownloads
  | .poll report, tracked => report.apply tracked
  | setState id state, tracked => (tracked.setState id state).2
  | stop id, tracked => (tracked.stopTracking id).2

/-- What is tracked after each write of the call: a poll writes once for every report, and then
marks what was left out. -/
def stages : TrackingCall σ → TrackedDownloads → List TrackedDownloads
  | .poll report, tracked =>
    sightingStages report.client report.protocol report.now (report.sightings tracked) tracked ++
      [report.apply tracked]
  | call, tracked => [call.apply tracked]

theorem isChain_sightings (client : String) (protocol : Protocol) (now : Instant)
    {last : TrackedDownloads} :
    ∀ (sightings : List Sighting) (tracked : TrackedDownloads),
      Follows none (applySightings client protocol now sightings tracked).1 last →
      (tracked :: (sightingStages client protocol now sightings tracked ++ [last])).IsChain
        (Follows none) := by
  intro sightings
  induction sightings with
  | nil => exact fun tracked h => List.isChain_cons_cons.mpr ⟨h, List.isChain_singleton last⟩
  | cons sighting sightings ih =>
    intro tracked h
    have hstep := follows_applySighting client protocol now sighting tracked
    exact List.isChain_cons_cons.mpr ⟨hstep, ih _ h⟩

/-- **Every stage of a call follows on the one before.** -/
theorem isChain_stages (call : TrackingCall σ) (tracked : TrackedDownloads) :
    (tracked :: call.stages tracked).IsChain (Follows call.stopped?) := by
  cases call with
  | poll report => exact isChain_sightings _ _ _ _ _ (follows_markGone _ _ _)
  | setState id state =>
    refine List.isChain_cons_cons.mpr ⟨?_, List.isChain_singleton _⟩
    exact .map (advances_setState id state) none tracked
  | stop id =>
    exact List.isChain_cons_cons.mpr ⟨follows_stopTracking tracked id, List.isChain_singleton _⟩

theorem getLast?_stages (call : TrackingCall σ) (tracked : TrackedDownloads) :
    (call.stages tracked).getLast? = some (call.apply tracked) := by
  cases call with
  | poll report => exact List.getLast?_concat
  | setState id state => rfl
  | stop id => rfl

theorem sound_of_mem_sightingStages {client : String} {protocol : Protocol} {now : Instant}
    {sightings : List Sighting} : ∀ {tracked : TrackedDownloads}, tracked.Sound →
      ∀ stage ∈ sightingStages client protocol now sightings tracked, stage.Sound := by
  induction sightings with
  | nil => exact fun _ stage hmem => absurd hmem List.not_mem_nil
  | cons sighting sightings ih =>
    intro tracked h
    exact List.forall_mem_cons.mpr ⟨h.applySighting, ih h.applySighting⟩

theorem apply_sound (call : TrackingCall σ) (h : tracked.Sound) : (call.apply tracked).Sound := by
  cases call with
  | poll report => exact report.apply_sound h
  | setState id state => exact h.map fun other => (advances_setState id state other).same
  | stop id => exact h.filter _

/-- Downloads are told apart by key and by identifier at every stage. -/
theorem sound_of_mem_stages (call : TrackingCall σ) (h : tracked.Sound) :
    ∀ stage ∈ call.stages tracked, stage.Sound := by
  have hlast : ∀ stage ∈ [call.apply tracked], stage.Sound :=
    List.forall_mem_singleton.mpr (call.apply_sound h)
  cases call with
  | poll report =>
    exact List.forall_mem_append.mpr ⟨sound_of_mem_sightingStages h, hlast⟩
  | setState id state => exact hlast
  | stop id => exact hlast

/-- Over a whole call a download is the same, unless it is given up. -/
theorem apply_continues (call : TrackingCall σ) {download : TrackedDownload}
    (hmem : download ∈ tracked.downloads) (hid : call.stopped? ≠ some download.id) :
    ∃ later ∈ (call.apply tracked).downloads, Continues download later := by
  refine continues_of_isChain (call.isChain_stages tracked) ?_ download hmem hid
  rw [List.getLast?_cons, getLast?_stages]
  rfl

end TrackingCall

/-! ### Runs -/

/-- What is tracked after calls, one after the other. -/
def runFrom (tracked : TrackedDownloads) (calls : List (TrackingCall σ)) : TrackedDownloads :=
  calls.foldl (fun tracked call => call.apply tracked) tracked

/-- **A download is the same until it is given up, and once deleted it stays so.** -/
theorem run_continues : ∀ (calls : List (TrackingCall σ)) {tracked : TrackedDownloads}
    {download : TrackedDownload}, download ∈ tracked.downloads →
      (∀ call ∈ calls, call.stopped? ≠ some download.id) →
      ∃ later ∈ (runFrom tracked calls).downloads, Continues download later := by
  intro calls
  induction calls with
  | nil => exact fun hmem _ => ⟨_, hmem, .refl _⟩
  | cons call calls ih =>
    intro tracked download hmem hcalls
    obtain ⟨hfirst, hrest⟩ := List.forall_mem_cons.mp hcalls
    obtain ⟨middle, hmiddle, hcontinues⟩ := call.apply_continues hmem hfirst
    rw [← hcontinues.same.id] at hrest
    obtain ⟨later, hlater, hcontinues'⟩ := ih hmiddle hrest
    exact ⟨later, hlater, hcontinues.trans hcontinues'⟩

theorem run_sound : ∀ (calls : List (TrackingCall σ)) {tracked : TrackedDownloads},
    tracked.Sound → (runFrom tracked calls).Sound := by
  intro calls
  induction calls with
  | nil => exact id
  | cons call calls ih => exact fun h => ih (call.apply_sound h)

/-- What holds of tracked downloads, and of what may happen next to them. -/
structure TrackingLaws (σ : Type) (tracked : TrackedDownloads) : Prop where
  /-- There is one download for each client and number, and for each identifier. -/
  keys : (tracked.downloads.map (·.key)).Nodup
  ids : (tracked.downloads.map (·.id)).Nodup
  /-- So there is at every stage of a call. -/
  stages : ∀ call : TrackingCall σ, ∀ stage ∈ call.stages tracked, stage.Sound
  /-- Through every call, each change of a status is one that may follow. -/
  chain : ∀ call : TrackingCall σ,
    (tracked :: call.stages tracked).IsChain (Follows call.stopped?)
  last : ∀ call : TrackingCall σ, (call.stages tracked).getLast? = some (call.apply tracked)
  /-- Through all later calls, a download is the same until it is given up. -/
  lasting : ∀ (calls : List (TrackingCall σ)), ∀ download ∈ tracked.downloads,
    (∀ call ∈ calls, call.stopped? ≠ some download.id) →
      ∃ later ∈ (runFrom tracked calls).downloads, Continues download later
  /-- What the client of a poll no longer reports is deleted. -/
  gone : ∀ (poll : Poll σ), ∀ download ∈ (poll.apply tracked).downloads,
    download.key.1 = Text.lowercase poll.client → download.key ∉ poll.keys →
      download.status = .deleted
  /-- The downloads of other clients stay as they are. -/
  others : ∀ (poll : Poll σ) (key : TrackingKey), key.1 ≠ Text.lowercase poll.client →
    (poll.apply tracked).lookup? key = tracked.lookup? key
  /-- A poll that reports every download once takes each status one step, tells whether it changed
  anything, and changes nothing when it is repeated. -/
  once : ∀ poll : Poll σ, poll.keys.Nodup → Follows none tracked (poll.apply tracked)
  quiet : ∀ poll : Poll σ, poll.keys.Nodup →
    (poll.changes tracked = false ↔ Unchanged tracked (poll.apply tracked))
  repeated : ∀ poll again : Poll σ, poll.keys.Nodup → again.client = poll.client →
    again.items = poll.items → again.changes (poll.apply tracked) = false

/-- Where every download is reported once, a poll takes each status one step at most. -/
theorem Poll.follows (poll : Poll σ) (h : tracked.Sound) (hdistinct : poll.keys.Nodup) :
    Follows none tracked (poll.apply tracked) := by
  intro download hmem _
  have hlookup := h.lookup?_key hmem
  by_cases hkey : download.key ∈ poll.keys
  · obtain ⟨item, hitem, hsame⟩ := List.mem_map.mp hkey
    obtain ⟨after, hafter, htakes⟩ := lookup?_of_mem tracked hdistinct hitem
    rw [hsame, hlookup] at htakes
    refine ⟨after, mem_of_lookup? hafter, ?_⟩
    rw [htakes]
    exact TrackedDownload.update_advances hsame.symm
  · have hafter := lookup?_of_not_mem tracked hkey
    rw [hlookup] at hafter
    exact ⟨_, mem_of_lookup? hafter, download.miss_advances _ _⟩

/-- A download that is reported twice may be taken two steps, and so to a status that may not
follow. -/
example :
    let download : TrackedDownload := { (default : TrackedDownload) with status := .downloading }
    let paused : Sighting := ⟨{ download.item with status := .paused }, none⟩
    let queued : Sighting := ⟨{ download.item with status := .queued }, none⟩
    let after := (applySightings "" .torrent 0 [paused, queued] ⟨[download], 1⟩).1
    after.downloads.map (·.status) = [.queued] ∧
      download.status.canBecome .queued = false := by
  decide

/-- **The laws hold after any run.** -/
theorem run_laws (calls : List (TrackingCall σ)) : TrackingLaws σ (runFrom .empty calls) := by
  have hsound : (runFrom .empty calls).Sound := run_sound calls .empty
  exact {
    keys := hsound.keys
    ids := hsound.ids
    stages := fun call => call.sound_of_mem_stages hsound
    chain := fun call => call.isChain_stages _
    last := fun call => call.getLast?_stages _
    lasting := fun later download hmem hcalls => run_continues later hmem hcalls
    gone := fun poll download hmem hclient hkey => Poll.deleted_of_not_mem hsound hmem hclient hkey
    others := fun poll key hclient => Poll.lookup?_of_other hclient
    once := fun poll hdistinct => poll.follows hsound hdistinct
    quiet := fun poll hdistinct => Poll.changes_eq_false_iff_unchanged hsound hdistinct
    repeated := fun poll again hdistinct hclient hitems =>
      Poll.changes_repeated hsound hdistinct again hclient hitems }

end Acquisition
