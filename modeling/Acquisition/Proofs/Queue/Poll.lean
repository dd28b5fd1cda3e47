import Acquisition.Proofs.Queue.Lookup

/-!
# What a poll does

A poll takes in reports one after the other and then marks what was left out.  Look-up says what
comes of one download: a reported one is as reported, as far as its status may follow; one that
was left out is deleted; and one of another client stays as it is.

## Main definitions

* `TakesIn`: a download after a report of it.
* `Poll`: a report of a client, and what it is taken in with.
* `Unchanged`: both hold the same downloads, paths compared as paths.

## Main results

* `Poll.lookup?_of_mem`, `Poll.lookup?_of_not_mem`: look-up after a poll.
* `Poll.changes_eq_false_iff`: a poll that reports every download once tells whether it changed
  anything.
* `Poll.changes_repeated`: taken in again, it changes nothing.
-/

namespace Acquisition

/-- A download after a report of it: one that was tracked is updated, any other is as reported. -/
def TakesIn (before : Option TrackedDownload) (item : DownloadItem) (after : TrackedDownload) :
    Prop :=
  match before with
  | some download => after = download.update item
  | none => after.item = item ∧ after.status = item.status

/-- Up to the way in which a path is written, the two downloads are equal. -/
structure TrackedDownload.Same (before after : TrackedDownload) : Prop where
  eq : after = { before with item := after.item }
  item : before.item.same after.item = true

theorem Path.same_refl (path : Path) : path.same path = true := by
  rw [Path.same, beq_self_eq_true]

theorem DownloadItem.same_refl (item : DownloadItem) : item.same item = true := by
  rw [same, beq_self_eq_true, Bool.true_and]
  cases item.outputPath with
  | none => rfl
  | some path => exact path.same_refl

namespace TrackedDownload

theorem Same.refl (download : TrackedDownload) : Same download download :=
  ⟨rfl, download.item.same_refl⟩

theorem update_status_eq_iff {download : TrackedDownload} {item : DownloadItem} :
    (download.update item).status = download.status ↔
      (download.status.canBecome item.status && download.status != item.status) = false := by
  rw [update]
  cases download.status.canBecome item.status with
  | false => simp
  | true => rw [if_pos rfl, Bool.true_and, bne_eq_false_iff_eq, eq_comm]

/-- The report changes nothing exactly if it does not differ. -/
theorem same_update_iff {download : TrackedDownload} {item : DownloadItem} :
    Same download (download.update item) ↔ download.differsFrom item = false := by
  rw [differsFrom, Bool.or_eq_false_iff, ← update_status_eq_iff, Bool.not_eq_false']
  constructor
  · rintro ⟨heq, hitem⟩
    exact ⟨by rw [heq], hitem⟩
  · rintro ⟨hstatus, hitem⟩
    refine ⟨?_, hitem⟩
    conv => rhs; rw [← hstatus]
    rfl

end TrackedDownload

/-- A download does not differ from the report that it just took in. -/
theorem TakesIn.differsFrom_eq_false {before : Option TrackedDownload} {item : DownloadItem}
    {after : TrackedDownload} (h : TakesIn before item after) : after.differsFrom item = false := by
  cases before with
  | none =>
    obtain ⟨hitem, hstatus⟩ := h
    rw [TrackedDownload.differsFrom, hstatus, hitem, bne_self_eq_false, Bool.and_false,
      item.same_refl]
    rfl
  | some download =>
    rw [TakesIn] at h
    rw [h, TrackedDownload.differsFrom, TrackedDownload.update, item.same_refl]
    cases hnext : download.status.canBecome item.status with
    | false => simp [hnext]
    | true => simp

namespace TrackedDownloads

variable {σ : Type} {tracked : TrackedDownloads} {client : String} {protocol : Protocol}
  {now : Instant} {sighting : Sighting} {key : TrackingKey} {download : TrackedDownload}

/-! ### One report -/

theorem applySighting_of_some
    (h : tracked.lookup? (.of client sighting.item.downloadId) = some download) :
    tracked.applySighting client protocol now sighting =
      ({ tracked with
          downloads := tracked.downloads.map
            (·.sight (.of client sighting.item.downloadId) sighting.item) },
        download.differsFrom sighting.item) := by
  rw [applySighting, h]
  rfl

theorem applySighting_of_none (h : tracked.lookup? (.of client sighting.item.downloadId) = none) :
    tracked.applySighting client protocol now sighting =
      (tracked.start client protocol now sighting.item
        (sighting.origin.getD (.ofTitle sighting.item.title)), true) := by
  rw [applySighting, h]

theorem Sound.applySighting (h : tracked.Sound) :
    (tracked.applySighting client protocol now sighting).1.Sound := by
  cases hlookup : tracked.lookup? (.of client sighting.item.downloadId) with
  | some download =>
    rw [applySighting_of_some hlookup]
    exact h.map fun other => (other.sight_advances client sighting.item).same
  | none =>
    rw [applySighting_of_none hlookup]
    exact h.start hlookup _ _ _

theorem lookup?_start_of_ne (protocol : Protocol) (now : Instant) {item : DownloadItem}
    (origin : Origin) (hne : key ≠ .of client item.downloadId) :
    (tracked.start client protocol now item origin).lookup? key = tracked.lookup? key := by
  rw [lookup?, start, List.find?_append, List.find?_singleton, if_neg, Option.or_none, lookup?]
  rw [beq_iff_eq]
  exact hne.symm

theorem lookup?_start_self (protocol : Protocol) (now : Instant) {item : DownloadItem}
    (origin : Origin) (hfresh : tracked.lookup? (.of client item.downloadId) = none) :
    ∃ after, (tracked.start client protocol now item origin).lookup?
        (.of client item.downloadId) = some after ∧ TakesIn none item after := by
  rw [lookup?] at hfresh
  rw [lookup?, start, List.find?_append, List.find?_singleton, hfresh, Option.none_or, if_pos]
  · exact ⟨_, rfl, rfl, rfl⟩
  · exact beq_self_eq_true (TrackingKey.of client item.downloadId)

theorem lookup?_sight (tracked : TrackedDownloads) (client : String) (item : DownloadItem)
    (key : TrackingKey) :
    lookup? { tracked with
        downloads := tracked.downloads.map (·.sight (.of client item.downloadId) item) } key =
      (tracked.lookup? key).map (·.sight (.of client item.downloadId) item) :=
  lookup?_map (fun other => (other.sight_advances client item).same.key) tracked key

theorem lookup?_applySighting_of_ne (hne : key ≠ .of client sighting.item.downloadId) :
    (tracked.applySighting client protocol now sighting).1.lookup? key = tracked.lookup? key := by
  cases hlookup : tracked.lookup? (.of client sighting.item.downloadId) with
  | none =>
    rw [applySighting_of_none hlookup]
    exact lookup?_start_of_ne _ _ _ hne
  | some download =>
    rw [applySighting_of_some hlookup, lookup?_sight]
    cases hother : tracked.lookup? key with
    | none => rfl
    | some other =>
      rw [Option.map_some, TrackedDownload.sight_of_key_ne (key_of_lookup? hother ▸ hne)]

theorem lookup?_applySighting_of_eq (hkey : key = .of client sighting.item.downloadId) :
    ∃ after, (tracked.applySighting client protocol now sighting).1.lookup? key = some after ∧
      TakesIn (tracked.lookup? key) sighting.item after := by
  subst hkey
  cases hlookup : tracked.lookup? (.of client sighting.item.downloadId) with
  | none =>
    rw [applySighting_of_none hlookup]
    exact lookup?_start_self _ _ _ hlookup
  | some download =>
    rw [applySighting_of_some hlookup, lookup?_sight, hlookup]
    exact ⟨_, rfl, TrackedDownload.sight_of_key_eq (key_of_lookup? hlookup) _⟩

/-- The report changes nothing exactly if the download was tracked and does not differ. -/
theorem applySighting_changed_iff :
    (tracked.applySighting client protocol now sighting).2 = false ↔
      ∃ download, tracked.lookup? (.of client sighting.item.downloadId) = some download ∧
        download.differsFrom sighting.item = false := by
  cases hlookup : tracked.lookup? (.of client sighting.item.downloadId) with
  | none =>
    rw [applySighting_of_none hlookup]
    refine iff_of_false (Bool.true_eq_false.mp ·) ?_
    rintro ⟨download, hdownload, -⟩
    exact absurd hdownload (Option.some_ne_none download).symm
  | some download =>
    rw [applySighting_of_some hlookup]
    simp only [Option.some.injEq, exists_eq_left']

/-! ### All reports -/

/-- The keys of the downloads that are reported. -/
def reportedKeys (client : String) (items : List DownloadItem) : List TrackingKey :=
  items.map fun item => .of client item.downloadId

theorem key_ne_of_mem {items : List DownloadItem} {first item : DownloadItem}
    (hfresh : TrackingKey.of client first.downloadId ∉ reportedKeys client items)
    (hmem : item ∈ items) :
    TrackingKey.of client item.downloadId ≠ .of client first.downloadId := by
  intro h
  rw [← h] at hfresh
  exact hfresh (List.mem_map_of_mem hmem)

theorem applySightings_cons (client : String) (protocol : Protocol) (now : Instant)
    (sighting : Sighting) (sightings : List Sighting) (tracked : TrackedDownloads) :
    applySightings client protocol now (sighting :: sightings) tracked =
      ((applySightings client protocol now sightings
          (tracked.applySighting client protocol now sighting).1).1,
        (tracked.applySighting client protocol now sighting).2 ||
          (applySightings client protocol now sightings
            (tracked.applySighting client protocol now sighting).1).2) := rfl

theorem Sound.applySightings {sightings : List Sighting} :
    ∀ {tracked : TrackedDownloads}, tracked.Sound →
      (TrackedDownloads.applySightings client protocol now sightings tracked).1.Sound := by
  induction sightings with
  | nil => exact id
  | cons sighting sightings ih => exact fun h => ih h.applySighting

theorem lookup?_applySightings_of_not_mem {sightings : List Sighting} :
    ∀ {tracked : TrackedDownloads}, key ∉ reportedKeys client (sightings.map (·.item)) →
      (applySightings client protocol now sightings tracked).1.lookup? key =
        tracked.lookup? key := by
  induction sightings with
  | nil => exact fun _ => rfl
  | cons sighting sightings ih =>
    intro tracked hkey
    rw [List.map_cons, reportedKeys, List.map_cons, List.mem_cons, not_or] at hkey
    rw [applySightings_cons, ih hkey.2, lookup?_applySighting_of_ne hkey.1]

/-- Where every download is reported once, its report decides. -/
theorem lookup?_applySightings_of_mem (protocol : Protocol) (now : Instant)
    {sightings : List Sighting} : ∀ tracked : TrackedDownloads,
      (reportedKeys client (sightings.map (·.item))).Nodup →
      ∀ item ∈ sightings.map (·.item), ∃ after,
        (applySightings client protocol now sightings tracked).1.lookup?
            (.of client item.downloadId) = some after ∧
          TakesIn (tracked.lookup? (.of client item.downloadId)) item after := by
  induction sightings with
  | nil => exact fun _ _ item hmem => absurd hmem List.not_mem_nil
  | cons sighting sightings ih =>
    intro tracked hnodup item hmem
    obtain ⟨hfresh, hnodup⟩ := List.nodup_cons.mp hnodup
    rw [applySightings_cons]
    rcases List.mem_cons.mp hmem with rfl | hmem
    · -- the reports that follow are of other downloads
      rw [lookup?_applySightings_of_not_mem hfresh]
      exact lookup?_applySighting_of_eq rfl
    · obtain ⟨after, hlookup, htakes⟩ := ih _ hnodup item hmem
      rw [lookup?_applySighting_of_ne (key_ne_of_mem hfresh hmem)] at htakes
      exact ⟨after, hlookup, htakes⟩

/-- Where every download is reported once, the reports change nothing exactly if all downloads
were tracked and none differs. -/
theorem applySightings_changed_iff {sightings : List Sighting} :
    ∀ {tracked : TrackedDownloads}, (reportedKeys client (sightings.map (·.item))).Nodup →
      ((applySightings client protocol now sightings tracked).2 = false ↔
        ∀ item ∈ sightings.map (·.item), ∃ download,
          tracked.lookup? (.of client item.downloadId) = some download ∧
            download.differsFrom item = false) := by
  induction sightings with
  | nil => exact fun _ => iff_of_true rfl fun item hmem => absurd hmem List.not_mem_nil
  | cons sighting sightings ih =>
    intro tracked hnodup
    obtain ⟨hfresh, hnodup⟩ := List.nodup_cons.mp hnodup
    rw [applySightings_cons, Bool.or_eq_false_iff, applySighting_changed_iff, ih hnodup,
      List.map_cons, List.forall_mem_cons]
    refine and_congr_right fun _ => forall_congr' fun item => forall_congr' fun hmem => ?_
    rw [lookup?_applySighting_of_ne (key_ne_of_mem hfresh hmem)]

/-! ### What is left out -/

theorem Sound.markGone (h : tracked.Sound) (client : String) (seen : List TrackingKey) :
    (tracked.markGone client seen).1.Sound :=
  h.map fun other => (other.miss_advances client seen).same

theorem lookup?_markGone (tracked : TrackedDownloads) (client : String) (seen : List TrackingKey)
    (key : TrackingKey) : (tracked.markGone client seen).1.lookup? key =
      (tracked.lookup? key).map (·.miss client seen) :=
  lookup?_map (fun other => (other.miss_advances client seen).same.key) tracked key

theorem isGone_eq_false_of_mem {seen : List TrackingKey} (hmem : download.key ∈ seen) :
    isGone client seen download = false := by
  rw [isGone, List.contains_iff_mem.mpr hmem, Bool.not_true, Bool.and_false, Bool.false_and]

theorem Sound.markGone_changed_iff (h : tracked.Sound) (client : String)
    (seen : List TrackingKey) :
    (tracked.markGone client seen).2 = false ↔
      ∀ key ∉ seen, ∀ download, tracked.lookup? key = some download →
        isGone client seen download = false := by
  rw [TrackedDownloads.markGone, ← Bool.not_eq_true, List.any_eq_true, not_exists]
  simp only [not_and, Bool.not_eq_true]
  constructor
  · exact fun hnone key _ download hlookup => hnone download (mem_of_lookup? hlookup)
  · intro hnone download hmem
    by_cases hseen : download.key ∈ seen
    · exact isGone_eq_false_of_mem hseen
    · exact hnone download.key hseen download (h.lookup?_key hmem)

theorem resolveAll_items (history : HistoryReader σ) (tracked : TrackedDownloads)
    (client : String) : ∀ (items : List DownloadItem) (s : σ),
      (tracked.resolveAll history client items s).1.map (·.item) = items := by
  intro items
  induction items with
  | nil => exact fun _ => rfl
  | cons item items ih =>
    intro s
    rw [resolveAll]
    cases tracked.lookup? (.of client item.downloadId) with
    | some download => exact congrArg (item :: ·) (ih s)
    | none => exact congrArg (item :: ·) (ih _)

end TrackedDownloads

/-! ### One poll -/

open TrackedDownloads

/-- A report of a client, and what it is taken in with. -/
structure Poll (σ : Type) where
  client : String
  protocol : Protocol
  items : List DownloadItem
  now : Instant
  history : HistoryReader σ
  /-- What the history is in when it is asked. -/
  state : σ

/-- Every key has the same download in both, or none in either; paths are compared as paths. -/
def Unchanged (before after : TrackedDownloads) : Prop :=
  ∀ key, Option.Rel TrackedDownload.Same (before.lookup? key) (after.lookup? key)

namespace Poll

variable {σ : Type} {poll : Poll σ} {tracked : TrackedDownloads} {key : TrackingKey}

/-- The keys of the downloads that are reported. -/
def keys (poll : Poll σ) : List TrackingKey :=
  reportedKeys poll.client poll.items

/-- Whether the poll says that it changed anything. -/
def changes (poll : Poll σ) (tracked : TrackedDownloads) : Bool :=
  (tracked.applyPoll poll.history poll.client poll.protocol poll.items poll.now poll.state).1.1

/-- The downloads after the poll. -/
def apply (poll : Poll σ) (tracked : TrackedDownloads) : TrackedDownloads :=
  (tracked.applyPoll poll.history poll.client poll.protocol poll.items poll.now poll.state).1.2

/-- The reports with the origins that are looked up for them. -/
def sightings (poll : Poll σ) (tracked : TrackedDownloads) : List Sighting :=
  (tracked.resolveAll poll.history poll.client poll.items poll.state).1

/-- The downloads after all reports are taken in. -/
def reported (poll : Poll σ) (tracked : TrackedDownloads) : TrackedDownloads :=
  (applySightings poll.client poll.protocol poll.now (poll.sightings tracked) tracked).1

theorem apply_eq (poll : Poll σ) (tracked : TrackedDownloads) :
    poll.apply tracked = ((poll.reported tracked).markGone poll.client poll.keys).1 := rfl

theorem changes_eq (poll : Poll σ) (tracked : TrackedDownloads) : poll.changes tracked =
    ((applySightings poll.client poll.protocol poll.now (poll.sightings tracked) tracked).2 ||
      ((poll.reported tracked).markGone poll.client poll.keys).2) := rfl

theorem sightings_items (poll : Poll σ) (tracked : TrackedDownloads) :
    (poll.sightings tracked).map (·.item) = poll.items :=
  resolveAll_items _ _ _ _ _

theorem reported_sound (poll : Poll σ) (h : tracked.Sound) : (poll.reported tracked).Sound :=
  h.applySightings

theorem apply_sound (poll : Poll σ) (h : tracked.Sound) : (poll.apply tracked).Sound :=
  (poll.reported_sound h).markGone poll.client poll.keys

theorem lookup?_reported_of_not_mem (hkey : key ∉ poll.keys) :
    (poll.reported tracked).lookup? key = tracked.lookup? key := by
  rw [reported, lookup?_applySightings_of_not_mem]
  rwa [sightings_items]

/-- **A download that is not reported** is deleted, if it is of the client. -/
theorem lookup?_of_not_mem (tracked : TrackedDownloads) (hkey : key ∉ poll.keys) :
    (poll.apply tracked).lookup? key =
      (tracked.lookup? key).map (·.miss poll.client poll.keys) := by
  rw [apply_eq, lookup?_markGone, lookup?_reported_of_not_mem hkey]

/-- **A download that is reported once** is as reported, as far as its status may follow. -/
theorem lookup?_of_mem (tracked : TrackedDownloads) (hdistinct : poll.keys.Nodup)
    {item : DownloadItem} (hmem : item ∈ poll.items) : ∃ after,
      (poll.apply tracked).lookup? (.of poll.client item.downloadId) = some after ∧
        TakesIn (tracked.lookup? (.of poll.client item.downloadId)) item after := by
  rw [keys, ← poll.sightings_items tracked] at hdistinct
  rw [← poll.sightings_items tracked] at hmem
  obtain ⟨after, hlookup, htakes⟩ := lookup?_applySightings_of_mem poll.protocol poll.now
    tracked hdistinct item hmem
  refine ⟨after, ?_, htakes⟩
  rw [sightings_items] at hmem
  rw [apply_eq, lookup?_markGone, reported, hlookup, Option.map_some, TrackedDownload.miss_of_mem]
  rw [key_of_lookup? hlookup]
  exact List.mem_map_of_mem hmem

theorem not_mem_keys_of_ne (hclient : key.1 ≠ Text.lowercase poll.client) : key ∉ poll.keys := by
  intro hmem
  obtain ⟨item, -, rfl⟩ := List.mem_map.mp hmem
  exact hclient rfl

/-- **Downloads of other clients stay as they are.** -/
theorem lookup?_of_other (hclient : key.1 ≠ Text.lowercase poll.client) :
    (poll.apply tracked).lookup? key = tracked.lookup? key := by
  rw [lookup?_of_not_mem tracked (not_mem_keys_of_ne hclient)]
  cases hlookup : tracked.lookup? key with
  | none => rfl
  | some download =>
    rw [Option.map_some, TrackedDownload.miss_of_client_ne]
    rwa [key_of_lookup? hlookup]

/-- **What a client no longer reports is deleted.** -/
theorem deleted_of_not_mem (h : tracked.Sound) {download : TrackedDownload}
    (hmem : download ∈ (poll.apply tracked).downloads)
    (hclient : download.key.1 = Text.lowercase poll.client) (hkey : download.key ∉ poll.keys) :
    download.status = .deleted := by
  have hlookup := (apply_sound poll h).lookup?_key hmem
  rw [lookup?_of_not_mem tracked hkey, Option.map_eq_some_iff] at hlookup
  obtain ⟨before, hbefore, rfl⟩ := hlookup
  rw [← key_of_lookup? hbefore] at hclient hkey
  rw [TrackedDownload.miss_of_not_mem hclient hkey]

/-! ### Polls that change nothing -/

/-- Where every download is reported once, a poll changes nothing exactly if the reported downloads
were tracked and none differs, and none was left out that is not deleted. -/
theorem changes_eq_false_iff (h : tracked.Sound) (hdistinct : poll.keys.Nodup) :
    poll.changes tracked = false ↔
      (∀ item ∈ poll.items, ∃ download,
          tracked.lookup? (.of poll.client item.downloadId) = some download ∧
            download.differsFrom item = false) ∧
        ∀ key ∉ poll.keys, ∀ download, tracked.lookup? key = some download →
          isGone poll.client poll.keys download = false := by
  rw [keys, ← poll.sightings_items tracked] at hdistinct
  rw [changes_eq, Bool.or_eq_false_iff, applySightings_changed_iff hdistinct, sightings_items,
    (poll.reported_sound h).markGone_changed_iff]
  refine and_congr_right fun _ => forall_congr' fun key => forall_congr' fun hkey => ?_
  rw [lookup?_reported_of_not_mem hkey]

/-- **A poll that reports every download once says that it changed something exactly if it did.** -/
theorem changes_eq_false_iff_unchanged (h : tracked.Sound) (hdistinct : poll.keys.Nodup) :
    poll.changes tracked = false ↔ Unchanged tracked (poll.apply tracked) := by
  rw [changes_eq_false_iff h hdistinct]
  constructor
  · rintro ⟨hreported, hothers⟩ key
    by_cases hkey : key ∈ poll.keys
    · -- a reported download changes as far as it differs from its report
      obtain ⟨item, hmem, rfl⟩ := List.mem_map.mp hkey
      obtain ⟨after, hafter, htakes⟩ := lookup?_of_mem tracked hdistinct hmem
      obtain ⟨download, hlookup, hdiffers⟩ := hreported item hmem
      rw [hlookup] at htakes ⊢
      rw [hafter, htakes]
      exact .some (TrackedDownload.same_update_iff.mpr hdiffers)
    · -- any other changes if it goes from not deleted to deleted
      rw [lookup?_of_not_mem tracked hkey]
      cases hlookup : tracked.lookup? key with
      | none => exact .none
      | some download =>
        rw [Option.map_some, TrackedDownload.miss, hothers key hkey download hlookup]
        exact .some (.refl download)
  · intro hunchanged
    refine ⟨fun item hmem => ?_, fun key hkey download hlookup => ?_⟩
    · obtain ⟨after, hafter, htakes⟩ := lookup?_of_mem tracked hdistinct hmem
      have hrel := hunchanged (.of poll.client item.downloadId)
      rw [hafter] at hrel
      cases hlookup : tracked.lookup? (.of poll.client item.downloadId) with
      | none =>
        rw [hlookup] at hrel
        cases hrel
      | some download =>
        rw [hlookup] at hrel htakes
        rw [htakes] at hrel
        cases hrel with
        | some hsame => exact ⟨download, rfl, TrackedDownload.same_update_iff.mp hsame⟩
    · have hrel := hunchanged key
      rw [lookup?_of_not_mem tracked hkey, hlookup, Option.map_some, TrackedDownload.miss] at hrel
      cases hgone : isGone poll.client poll.keys download with
      | false => rfl
      | true =>
        rw [hgone] at hrel
        cases hrel with
        | some hsame =>
          have hstatus : .deleted = download.status := congrArg TrackedDownload.status hsame.eq
          rw [isGone, ← hstatus, bne_self_eq_false, Bool.and_false] at hgone
          exact absurd hgone Bool.false_ne_true

/-- **Taken in again, what a client reported changes nothing**, whatever the history and the clock
say by then. -/
theorem changes_repeated (h : tracked.Sound) (hdistinct : poll.keys.Nodup) (again : Poll σ)
    (hclient : again.client = poll.client) (hitems : again.items = poll.items) :
    again.changes (poll.apply tracked) = false := by
  have hkeys : again.keys = poll.keys := by rw [keys, hclient, hitems, keys]
  rw [changes_eq_false_iff (poll.apply_sound h) (hkeys ▸ hdistinct), hkeys, hclient, hitems]
  refine ⟨fun item hmem => ?_, fun key hkey download hlookup => ?_⟩
  · obtain ⟨after, hafter, htakes⟩ := lookup?_of_mem tracked hdistinct hmem
    exact ⟨after, hafter, htakes.differsFrom_eq_false⟩
  · rw [lookup?_of_not_mem tracked hkey, Option.map_eq_some_iff] at hlookup
    obtain ⟨before, -, rfl⟩ := hlookup
    exact TrackedDownload.isGone_miss _ _ before

end Poll

end Acquisition
