import Acquisition.Queue.Pending
import Mathlib.Data.List.Nodup

/-!
# What is pending

A release is set aside by its candidate, and candidates that offer the same release count as one.
What waits is only ever extended at the end, given a new reason, or taken out by media item.

## Main definitions

* `PendingReleases.Holds`: the release of a candidate waits.
* `PendingReleases.Keeps`: what waited for the media items in question waits still.
* `PendingReleases.Sound`: every identifier occurs once.

## Main results

* `PendingReleases.add_holds`: what is set aside waits.
* `PendingReleases.add_keeps`: nothing is lost by it.
* `PendingReleases.Sound.add`, `PendingReleases.Sound.sublist`: what waits stays sound.
-/

namespace Acquisition

/-! ### The same release -/

namespace GrabCandidate

variable {a b c : GrabCandidate}

theorem sameRelease_iff : a.sameRelease b = true ↔ a.media.id = b.media.id ∧
    a.release.title = b.release.title ∧ a.release.indexer = b.release.indexer ∧
    a.release.published = b.release.published := by
  simp only [sameRelease, Bool.and_eq_true, beq_iff_eq, and_assoc]

theorem media_eq_of_sameRelease (h : a.sameRelease b = true) : a.media.id = b.media.id :=
  (sameRelease_iff.mp h).1

end GrabCandidate

namespace PendingReleases

variable {pending : PendingReleases} {candidate : GrabCandidate} {rejection : Rejection}
  {now : Instant}

/-- The release of the candidate waits: the title of that indexer, published then, for that media
item. -/
def Holds (pending : PendingReleases) (candidate : GrabCandidate) : Prop :=
  ∃ release ∈ pending.releases, release.candidate.media.id = candidate.media.id ∧
    release.candidate.release.title = candidate.release.title ∧
    release.candidate.release.indexer = candidate.release.indexer ∧
    release.candidate.release.published = candidate.release.published

/-- The releases for the media items in question stay, up to the reason for which they wait. -/
def Keeps (p : MediaId → Prop) (before after : PendingReleases) : Prop :=
  ∀ release ∈ before.releases, p release.candidate.media.id →
    ∃ reason, { release with rejection := reason } ∈ after.releases

theorem Keeps.refl (p : MediaId → Prop) (pending : PendingReleases) : Keeps p pending pending :=
  fun release hmem _ => ⟨release.rejection, hmem⟩

theorem Keeps.trans {p : MediaId → Prop} {middle after : PendingReleases}
    (h : Keeps p pending middle) (h' : Keeps p middle after) : Keeps p pending after := by
  intro release hmem hmedia
  obtain ⟨reason, hmiddle⟩ := h release hmem hmedia
  exact h' { release with rejection := reason } hmiddle hmedia

theorem Keeps.mono {p q : MediaId → Prop} {after : PendingReleases} (h : Keeps p pending after)
    (himp : ∀ mediaId, q mediaId → p mediaId) : Keeps q pending after :=
  fun release hmem hmedia => h release hmem (himp release.candidate.media.id hmedia)

theorem Keeps.holds {p : MediaId → Prop} {after : PendingReleases} (h : Keeps p pending after)
    (hholds : pending.Holds candidate) (hmedia : p candidate.media.id) :
    after.Holds candidate := by
  obtain ⟨release, hmem, hsame⟩ := hholds
  obtain ⟨reason, hafter⟩ := h release hmem (hsame.1 ▸ hmedia)
  exact ⟨{ release with rejection := reason }, hafter, hsame⟩

/-! ### Setting a release aside -/

/-- A renewed release is the first one of the candidate, with the new reason. -/
theorem renew?_eq_some {renewed : List PendingRelease} :
    ∀ {releases : List PendingRelease}, renew? candidate rejection releases = some renewed →
      ∃ front first back, releases = front ++ first :: back ∧
        first.candidate.sameRelease candidate = true ∧
        renewed = front ++ { first with rejection } :: back := by
  intro releases
  induction releases generalizing renewed with
  | nil => exact nofun
  | cons first rest ih =>
    intro h
    rw [renew?] at h
    by_cases hsame : first.candidate.sameRelease candidate = true
    · rw [if_pos hsame] at h
      exact ⟨[], first, rest, rfl, hsame, (Option.some.inj h).symm⟩
    · rw [if_neg hsame, Option.map_eq_some_iff] at h
      obtain ⟨tail, htail, rfl⟩ := h
      obtain ⟨front, found, back, rfl, hfound, rfl⟩ := ih htail
      exact ⟨first :: front, found, back, rfl, hfound, rfl⟩

/-- What `add` leaves: the old list with a new reason in one place, or with one release more. -/
theorem add_cases (pending : PendingReleases) (candidate : GrabCandidate) (rejection : Rejection)
    (now : Instant) :
    (∃ front first back, pending.releases = front ++ first :: back ∧
        first.candidate.sameRelease candidate = true ∧
        (pending.add candidate rejection now).2.releases =
          front ++ { first with rejection } :: back) ∨
      (pending.add candidate rejection now).2.releases = pending.releases ++
        [⟨.pending pending.nextSerial, candidate, rejection, now⟩] := by
  cases hrenew : renew? candidate rejection pending.releases with
  | some releases =>
    obtain ⟨front, first, back, hsplit, hsame, hreleases⟩ := renew?_eq_some hrenew
    refine Or.inl ⟨front, first, back, hsplit, hsame, ?_⟩
    rw [add, hrenew]
    exact hreleases
  | none => exact Or.inr (by rw [add, hrenew])

/-- **What is set aside waits.** -/
theorem add_holds (pending : PendingReleases) (candidate : GrabCandidate) (rejection : Rejection)
    (now : Instant) : (pending.add candidate rejection now).2.Holds candidate := by
  rcases add_cases pending candidate rejection now with ⟨front, first, back, -, hsame, h⟩ | h
  · exact ⟨{ first with rejection }, by rw [h]; simp, GrabCandidate.sameRelease_iff.mp hsame⟩
  · exact ⟨⟨.pending pending.nextSerial, candidate, rejection, now⟩, by rw [h]; simp,
      rfl, rfl, rfl, rfl⟩

/-- **Nothing is lost by setting a release aside.** -/
theorem add_keeps (p : MediaId → Prop) (pending : PendingReleases)
    (candidate : GrabCandidate) (rejection : Rejection) (now : Instant) :
    Keeps p pending (pending.add candidate rejection now).2 := by
  intro release hmem _
  rcases add_cases pending candidate rejection now with ⟨front, first, back, hsplit, -, h⟩ | h
  · rw [hsplit, List.mem_append, List.mem_cons] at hmem
    simp only [h, List.mem_append, List.mem_cons]
    rcases hmem with hfront | rfl | hback
    · exact ⟨release.rejection, Or.inl hfront⟩
    · exact ⟨rejection, Or.inr (Or.inl rfl)⟩
    · exact ⟨release.rejection, Or.inr (Or.inr hback)⟩
  · rw [h]
    exact ⟨release.rejection, List.mem_append_left _ hmem⟩

/-- What waits afterwards is for the media item of the candidate, or for one that something
waited for. -/
theorem media_of_mem_add {release : PendingRelease}
    (hmem : release ∈ (pending.add candidate rejection now).2.releases) :
    release.candidate.media.id = candidate.media.id ∨
      ∃ old ∈ pending.releases, old.candidate.media.id = release.candidate.media.id := by
  rcases add_cases pending candidate rejection now with ⟨front, first, back, hsplit, hsame, h⟩ | h
  · rw [h, List.mem_append, List.mem_cons] at hmem
    simp only [hsplit, List.mem_append, List.mem_cons]
    rcases hmem with hfront | rfl | hback
    · exact Or.inr ⟨release, Or.inl hfront, rfl⟩
    · exact Or.inl (GrabCandidate.media_eq_of_sameRelease hsame)
    · exact Or.inr ⟨release, Or.inr (Or.inr hback), rfl⟩
  · rw [h, List.mem_append, List.mem_singleton] at hmem
    rcases hmem with hold | rfl
    · exact Or.inr ⟨release, hold, rfl⟩
    · exact Or.inl rfl

/-! ### Letting go of a media item -/

theorem mem_removeForMedia {mediaId : MediaId} {release : PendingRelease} :
    release ∈ (pending.removeForMedia mediaId).2.releases ↔
      release ∈ pending.releases ∧ release.candidate.media.id ≠ mediaId := by
  rw [removeForMedia, List.mem_filter, bne_iff_ne]

theorem removeForMedia_keeps (pending : PendingReleases) (mediaId : MediaId) :
    Keeps (· ≠ mediaId) pending (pending.removeForMedia mediaId).2 :=
  fun release hmem hmedia => ⟨release.rejection, mem_removeForMedia.mpr ⟨hmem, hmedia⟩⟩

/-! ### Identifiers -/

/-- Every identifier occurs once, and identifiers are given out in order. -/
structure Sound (pending : PendingReleases) : Prop where
  ids : (pending.releases.map (·.id)).Nodup
  serials : ∀ release ∈ pending.releases,
    ∃ serial < pending.nextSerial, release.id = .pending serial

namespace Sound

theorem empty : Sound .empty :=
  ⟨List.nodup_nil, fun _ hmem => absurd hmem List.not_mem_nil⟩

/-- Releases taken out. -/
theorem sublist (h : pending.Sound) {releases : List PendingRelease}
    (hsublist : releases.Sublist pending.releases) : Sound { pending with releases } where
  ids := h.ids.sublist (hsublist.map _)
  serials := fun release hmem => h.serials release (hsublist.subset hmem)

/-- A new reason in place. -/
theorem renew (h : pending.Sound) {releases : List PendingRelease}
    (hrenew : renew? candidate rejection pending.releases = some releases) :
    Sound { pending with releases } := by
  obtain ⟨front, first, back, hsplit, -, hreleases⟩ := renew?_eq_some hrenew
  have hids : releases.map (·.id) = pending.releases.map (·.id) := by
    rw [hreleases, hsplit, List.map_append, List.map_append, List.map_cons, List.map_cons]
  refine ⟨hids ▸ h.ids, fun release hmem => ?_⟩
  have hid : release.id ∈ pending.releases.map (·.id) := by
    rw [← hids]
    exact List.mem_map_of_mem hmem
  obtain ⟨old, hold, hsame⟩ := List.mem_map.mp hid
  obtain ⟨serial, hlt, hserial⟩ := h.serials old hold
  exact ⟨serial, hlt, hsame.symm.trans hserial⟩

/-- A release set aside. -/
theorem add (h : pending.Sound) (candidate : GrabCandidate) (rejection : Rejection)
    (now : Instant) : (pending.add candidate rejection now).2.Sound := by
  rw [PendingReleases.add]
  cases hrenew : renew? candidate rejection pending.releases with
  | some releases => exact h.renew hrenew
  | none =>
    refine ⟨?_, fun release hmem => ?_⟩
    · rw [List.map_append, List.map_singleton, ← List.concat_eq_append]
      refine h.ids.concat fun hmem => ?_
      -- the identifiers in use have smaller numbers
      obtain ⟨old, hold, hid⟩ := List.mem_map.mp hmem
      obtain ⟨serial, hlt, hserial⟩ := h.serials old hold
      rw [hserial] at hid
      exact absurd (QueueItemId.pending.inj hid) (Nat.ne_of_lt hlt)
    · rw [List.mem_append, List.mem_singleton] at hmem
      rcases hmem with hmem | rfl
      · obtain ⟨serial, hlt, hserial⟩ := h.serials release hmem
        exact ⟨serial, Nat.lt_succ_of_lt hlt, hserial⟩
      · exact ⟨pending.nextSerial, Nat.lt_succ_self _, rfl⟩

end Sound

end PendingReleases

end Acquisition
