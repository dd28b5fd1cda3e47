import Acquisition.Proofs.Queue.Tracking

/-!
# Where tracked downloads come from

Identifiers are given out in order and never again.  So a download that is tracked later and bears
an identifier of now is the same download, whatever was given up and reported in between.

## Main definitions

* `Descends`: what is tracked was tracked before, or bears a new identifier.

## Main results

* `run_descends`: every run of calls descends.
* `Descends.same`: an identifier stands for the same download for good.
-/

namespace Acquisition

open TrackedDownloads

variable {σ : Type} {tracked : TrackedDownloads}

/-- What is tracked was tracked before, or bears an identifier that had not been given out. -/
structure Descends (before after : TrackedDownloads) : Prop where
  serials : before.nextSerial ≤ after.nextSerial
  ancestor : ∀ later ∈ after.downloads,
    (∃ earlier ∈ before.downloads, SameDownload earlier later) ∨
      ∃ serial, before.nextSerial ≤ serial ∧ later.id = .download serial

namespace Descends

theorem refl (tracked : TrackedDownloads) : Descends tracked tracked :=
  ⟨Nat.le_refl _, fun download hmem => Or.inl ⟨download, hmem, .refl download⟩⟩

theorem trans {first second third : TrackedDownloads} (h : Descends first second)
    (h' : Descends second third) : Descends first third := by
  refine ⟨Nat.le_trans h.serials h'.serials, fun later hlater => ?_⟩
  rcases h'.ancestor later hlater with ⟨middle, hmiddle, hsame⟩ | ⟨serial, hle, hid⟩
  · rcases h.ancestor middle hmiddle with ⟨earlier, hearlier, hsame'⟩ | ⟨serial, hle, hid⟩
    · exact Or.inl ⟨earlier, hearlier, hsame'.trans hsame⟩
    · exact Or.inr ⟨serial, hle, hsame.id.trans hid⟩
  · exact Or.inr ⟨serial, Nat.le_trans h.serials hle, hid⟩

/-- A change in place. -/
theorem map {f : TrackedDownload → TrackedDownload} (hf : ∀ other, SameDownload other (f other))
    (tracked : TrackedDownloads) :
    Descends tracked { tracked with downloads := tracked.downloads.map f } := by
  refine ⟨Nat.le_refl _, fun later hlater => ?_⟩
  obtain ⟨earlier, hearlier, rfl⟩ := List.mem_map.mp hlater
  exact Or.inl ⟨earlier, hearlier, hf earlier⟩

/-- A new download. -/
theorem start (tracked : TrackedDownloads) (client : String) (protocol : Protocol) (now : Instant)
    (item : DownloadItem) (origin : Origin) :
    Descends tracked (tracked.start client protocol now item origin) := by
  refine ⟨Nat.le_succ _, fun later hlater => ?_⟩
  rw [TrackedDownloads.start, List.mem_append, List.mem_singleton] at hlater
  rcases hlater with hlater | rfl
  · exact Or.inl ⟨later, hlater, .refl later⟩
  · exact Or.inr ⟨tracked.nextSerial, Nat.le_refl _, rfl⟩

/-- Downloads taken out. -/
theorem filter (p : TrackedDownload → Bool) (tracked : TrackedDownloads) :
    Descends tracked { tracked with downloads := tracked.downloads.filter p } :=
  ⟨Nat.le_refl _, fun later hlater =>
    Or.inl ⟨later, (List.mem_filter.mp hlater).1, .refl later⟩⟩

theorem applySighting (client : String) (protocol : Protocol) (now : Instant)
    (sighting : Sighting) (tracked : TrackedDownloads) :
    Descends tracked (tracked.applySighting client protocol now sighting).1 := by
  cases hlookup : tracked.lookup? (.of client sighting.item.downloadId) with
  | none =>
    rw [applySighting_of_none hlookup]
    exact start _ _ _ _ _ _
  | some download =>
    rw [applySighting_of_some hlookup]
    exact map (fun other => (other.sight_advances client sighting.item).same) tracked

theorem applySightings (client : String) (protocol : Protocol) (now : Instant) :
    ∀ (sightings : List Sighting) (tracked : TrackedDownloads),
      Descends tracked (TrackedDownloads.applySightings client protocol now sightings tracked).1 := by
  intro sightings
  induction sightings with
  | nil => exact fun tracked => refl tracked
  | cons sighting sightings ih =>
    exact fun tracked => (applySighting client protocol now sighting tracked).trans (ih _)

theorem call (call : TrackingCall σ) (tracked : TrackedDownloads) :
    Descends tracked (call.apply tracked) := by
  cases call with
  | poll report =>
    have hreported := applySightings report.client report.protocol report.now
      (report.sightings tracked) tracked
    exact hreported.trans (map (fun other => (other.miss_advances _ _).same) _)
  | setState id state => exact map (fun other => (advances_setState id state other).same) tracked
  | stop id => exact filter _ tracked

/-- **An identifier stands for the same download for good.** -/
theorem same {before after : TrackedDownloads} (h : Descends before after)
    (hsound : before.Sound) {earlier later : TrackedDownload}
    (hearlier : earlier ∈ before.downloads) (hlater : later ∈ after.downloads)
    (hid : later.id = earlier.id) : SameDownload earlier later := by
  rcases h.ancestor later hlater with ⟨other, hother, hsame⟩ | ⟨serial, hle, hserial⟩
  · obtain rfl : other = earlier :=
      List.inj_on_of_nodup_map hsound.ids hother hearlier (hsame.id.symm.trans hid)
    exact hsame
  · -- the identifiers of before have smaller numbers
    obtain ⟨old, hlt, hold⟩ := hsound.serials earlier hearlier
    rw [hserial, hold] at hid
    exact absurd (QueueItemId.download.inj hid) (Nat.ne_of_gt (Nat.lt_of_lt_of_le hlt hle))

end Descends

/-- **Every run of calls descends.** -/
theorem run_descends : ∀ (calls : List (TrackingCall σ)) (tracked : TrackedDownloads),
    Descends tracked (runFrom tracked calls) := by
  intro calls
  induction calls with
  | nil => exact fun tracked => .refl tracked
  | cons call calls ih => exact fun tracked => (Descends.call call tracked).trans (ih _)

end Acquisition
