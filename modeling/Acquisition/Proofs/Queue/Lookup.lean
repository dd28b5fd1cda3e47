import Acquisition.Queue.Tracked
import Mathlib.Data.List.Nodup

/-!
# Looking up tracked downloads

The tracked downloads are a list in which every key and every identifier occurs once.  Whatever
happens to them either changes downloads in place, adds one under a new key and a new identifier,
or takes one out.

## Main definitions

* `SameDownload`: what never changes about a download while it is tracked.
* `Advances`: the download is the same, and its status may follow.
* `TrackedDownloads.Sound`: keys and identifiers occur once.

## Main results

* `TrackedDownloads.lookup?_map`: look-up after a change in place.
* `TrackedDownloads.Sound.map`, `TrackedDownloads.Sound.start`, `TrackedDownloads.Sound.filter`:
  every kind of change keeps the downloads sound.
-/

namespace Acquisition

/-! ### One download -/

namespace QueueStatus

theorem canBecome_self (status : QueueStatus) : status.canBecome status = true := by
  rw [canBecome, beq_self_eq_true, Bool.true_or]

theorem canBecome_deleted (status : QueueStatus) : status.canBecome .deleted = true := by
  cases status <;> rfl

/-- **Deletion is final.** -/
theorem eq_deleted_of_canBecome {next : QueueStatus}
    (h : QueueStatus.deleted.canBecome next = true) : next = .deleted := by
  cases next <;> first | rfl | exact absurd h (by decide)

end QueueStatus

/-- What never changes about a download while it is tracked. -/
structure SameDownload (before after : TrackedDownload) : Prop where
  id : after.id = before.id
  key : after.key = before.key
  mediaId : after.mediaId = before.mediaId
  quality : after.quality = before.quality
  languages : after.languages = before.languages
  indexer : after.indexer = before.indexer
  added : after.added = before.added

/-- The download is the same, and its status is one that may follow. -/
structure Advances (before after : TrackedDownload) : Prop where
  same : SameDownload before after
  status : before.status.canBecome after.status = true

theorem SameDownload.refl (download : TrackedDownload) : SameDownload download download :=
  ⟨rfl, rfl, rfl, rfl, rfl, rfl, rfl⟩

theorem SameDownload.trans {first second third : TrackedDownload} (h : SameDownload first second)
    (h' : SameDownload second third) : SameDownload first third where
  id := h'.id.trans h.id
  key := h'.key.trans h.key
  mediaId := h'.mediaId.trans h.mediaId
  quality := h'.quality.trans h.quality
  languages := h'.languages.trans h.languages
  indexer := h'.indexer.trans h.indexer
  added := h'.added.trans h.added

theorem Advances.refl (download : TrackedDownload) : Advances download download :=
  ⟨.refl download, download.status.canBecome_self⟩

namespace TrackedDownload

/-- What a report does to a download, if it is a report of it. -/
def sight (key : TrackingKey) (item : DownloadItem) (download : TrackedDownload) :
    TrackedDownload :=
  if download.key == key then download.update item else download

/-- What a poll does to a download that it leaves out. -/
def miss (client : String) (seen : List TrackingKey) (download : TrackedDownload) :
    TrackedDownload :=
  if TrackedDownloads.isGone client seen download then { download with status := .deleted }
  else download

theorem sight_of_key_eq {key : TrackingKey} {download : TrackedDownload}
    (h : download.key = key) (item : DownloadItem) :
    download.sight key item = download.update item := by
  rw [sight, if_pos (beq_iff_eq.mpr h)]

theorem sight_of_key_ne {key : TrackingKey} {download : TrackedDownload}
    (h : download.key ≠ key) (item : DownloadItem) : download.sight key item = download := by
  rw [sight, if_neg fun hkey => h (beq_iff_eq.mp hkey)]

theorem update_advances {client : String} {item : DownloadItem} {download : TrackedDownload}
    (hkey : download.key = .of client item.downloadId) :
    Advances download (download.update item) := by
  refine ⟨⟨rfl, ?_, rfl, rfl, rfl, rfl, rfl⟩, ?_⟩
  · -- the client keeps its name, and the number is the same up to case
    exact Prod.ext rfl (congrArg Prod.snd hkey).symm
  · rw [update]
    split
    · assumption
    · exact download.status.canBecome_self

theorem sight_advances (client : String) (item : DownloadItem) (download : TrackedDownload) :
    Advances download (download.sight (.of client item.downloadId) item) := by
  by_cases hkey : download.key = .of client item.downloadId
  · rw [sight_of_key_eq hkey]
    exact update_advances hkey
  · rw [sight_of_key_ne hkey]
    exact .refl download

theorem miss_of_mem (client : String) {seen : List TrackingKey} {download : TrackedDownload}
    (h : download.key ∈ seen) : download.miss client seen = download := by
  rw [miss, if_neg]
  simp [TrackedDownloads.isGone, h]

theorem miss_of_client_ne {client : String} (seen : List TrackingKey)
    {download : TrackedDownload} (h : download.key.1 ≠ Text.lowercase client) :
    download.miss client seen = download := by
  rw [miss, if_neg]
  simp [TrackedDownloads.isGone, h]

/-- A download of the client that is left out ends up deleted. -/
theorem miss_of_not_mem {client : String} {seen : List TrackingKey} {download : TrackedDownload}
    (hclient : download.key.1 = Text.lowercase client) (hseen : download.key ∉ seen) :
    download.miss client seen = { download with status := .deleted } := by
  rw [miss]
  split
  · rfl
  next hgone =>
    have hstatus : download.status = .deleted := by
      simpa [TrackedDownloads.isGone, hclient, hseen] using hgone
    rw [← hstatus]

theorem isGone_miss (client : String) (seen : List TrackingKey) (download : TrackedDownload) :
    TrackedDownloads.isGone client seen (download.miss client seen) = false := by
  rw [miss]
  split
  · rw [TrackedDownloads.isGone, bne_self_eq_false, Bool.and_false]
  next hgone => exact Bool.eq_false_iff.mpr hgone

theorem miss_advances (client : String) (seen : List TrackingKey) (download : TrackedDownload) :
    Advances download (download.miss client seen) := by
  rw [miss]
  split
  · exact ⟨⟨rfl, rfl, rfl, rfl, rfl, rfl, rfl⟩, download.status.canBecome_deleted⟩
  · exact .refl download

end TrackedDownload

/-! ### All downloads -/

namespace TrackedDownloads

variable {tracked : TrackedDownloads} {key : TrackingKey} {download : TrackedDownload}

theorem key_of_lookup? (h : tracked.lookup? key = some download) : download.key = key := by
  have hfound := List.find?_some h
  exact beq_iff_eq.mp hfound

theorem mem_of_lookup? (h : tracked.lookup? key = some download) :
    download ∈ tracked.downloads :=
  List.mem_of_find?_eq_some h

theorem lookup?_eq_none_iff :
    tracked.lookup? key = none ↔ key ∉ tracked.downloads.map (·.key) := by
  simp [lookup?]

/-- Look-up after a change in place that keeps the keys. -/
theorem lookup?_map {f : TrackedDownload → TrackedDownload}
    (hkey : ∀ other, (f other).key = other.key) (tracked : TrackedDownloads) (key : TrackingKey) :
    lookup? { tracked with downloads := tracked.downloads.map f } key =
      (tracked.lookup? key).map f := by
  have hcomp : (fun other : TrackedDownload => other.key == key) ∘ f =
      fun other => other.key == key := by
    funext other
    rw [Function.comp_apply, hkey]
  rw [lookup?, List.find?_map, hcomp, lookup?]

/-- Every key and every identifier occurs once, and identifiers are given out in order. -/
structure Sound (tracked : TrackedDownloads) : Prop where
  keys : (tracked.downloads.map (·.key)).Nodup
  ids : (tracked.downloads.map (·.id)).Nodup
  serials : ∀ download ∈ tracked.downloads,
    ∃ serial < tracked.nextSerial, download.id = .download serial

namespace Sound

theorem empty : Sound .empty :=
  ⟨List.nodup_nil, List.nodup_nil, fun _ hmem => absurd hmem List.not_mem_nil⟩

theorem lookup?_key (h : tracked.Sound) (hmem : download ∈ tracked.downloads) :
    tracked.lookup? download.key = some download := by
  rw [lookup?, List.find?_eq_some_iff_append]
  refine ⟨beq_self_eq_true _, ?_⟩
  obtain ⟨front, back, hsplit⟩ := List.append_of_mem hmem
  refine ⟨front, back, hsplit, fun other hother => ?_⟩
  have hkeys := h.keys
  rw [hsplit, List.map_append, List.nodup_append] at hkeys
  have hne := hkeys.2.2 other.key (List.mem_map_of_mem hother) download.key
    (List.mem_map_of_mem List.mem_cons_self)
  rwa [Bool.not_eq_true', beq_eq_false_iff_ne]

/-- A change in place. -/
theorem map {f : TrackedDownload → TrackedDownload} (h : tracked.Sound)
    (hf : ∀ other, SameDownload other (f other)) :
    Sound { tracked with downloads := tracked.downloads.map f } where
  keys := by
    rw [List.map_map]
    exact (List.map_congr_left fun other _ => (hf other).key) ▸ h.keys
  ids := by
    rw [List.map_map]
    exact (List.map_congr_left fun other _ => (hf other).id) ▸ h.ids
  serials := by
    refine List.forall_mem_map.mpr fun other hmem => ?_
    rw [(hf other).id]
    exact h.serials other hmem

/-- A download under a new key. -/
theorem start (h : tracked.Sound) {client : String} {item : DownloadItem}
    (hfresh : tracked.lookup? (.of client item.downloadId) = none) (protocol : Protocol)
    (now : Instant) (origin : Origin) :
    Sound (tracked.start client protocol now item origin) where
  keys := by
    rw [TrackedDownloads.start, List.map_append, List.map_singleton, ← List.concat_eq_append]
    exact h.keys.concat (lookup?_eq_none_iff.mp hfresh)
  ids := by
    rw [TrackedDownloads.start, List.map_append, List.map_singleton, ← List.concat_eq_append]
    refine h.ids.concat fun hmem => ?_
    -- the identifiers in use have smaller numbers
    obtain ⟨other, hother, hid⟩ := List.mem_map.mp hmem
    obtain ⟨serial, hlt, hserial⟩ := h.serials other hother
    rw [hserial] at hid
    exact absurd (QueueItemId.download.inj hid) (Nat.ne_of_lt hlt)
  serials := by
    intro other hmem
    rw [TrackedDownloads.start, List.mem_append, List.mem_singleton] at hmem
    rcases hmem with hmem | rfl
    · obtain ⟨serial, hlt, hserial⟩ := h.serials other hmem
      exact ⟨serial, Nat.lt_succ_of_lt hlt, hserial⟩
    · exact ⟨tracked.nextSerial, Nat.lt_succ_self _, rfl⟩

/-- Downloads taken out. -/
theorem filter (h : tracked.Sound) (p : TrackedDownload → Bool) :
    Sound { tracked with downloads := tracked.downloads.filter p } where
  keys := h.keys.sublist (List.filter_sublist.map _)
  ids := h.ids.sublist (List.filter_sublist.map _)
  serials := fun other hmem => h.serials other (List.mem_filter.mp hmem).1

end Sound

end TrackedDownloads

end Acquisition
