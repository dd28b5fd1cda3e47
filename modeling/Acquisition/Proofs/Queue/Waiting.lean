import Acquisition.Proofs.Queue.Pending

/-!
# Which releases wait

A release that waits is found by what it offers: a title of an indexer, published at some time, for a
media item.  No two releases that wait offer the same, so that look-up says all about what waits, and
every change of it can be stated as a change of look-up.

## Main definitions

* `GrabCandidate.offer`: what a candidate offers.
* `PendingReleases.waiting?`: the release that waits and offers this.
* `PendingReleases.Once`: no two releases offer the same.
* `PendingRelease.SameEntry`, `PendingReleases.Persists`: what waits before and after is one entry.

## Main results

* `PendingReleases.waiting?_add_self`, `PendingReleases.waiting?_add_of_ne`,
  `PendingReleases.waiting?_removeForMedia`, `PendingReleases.waiting?_removeRelease`: look-up after
  each change.
* `PendingReleases.Once.add`, `PendingReleases.Once.sublist`: nothing waits twice.
-/

namespace Acquisition

/-! ### Offers -/

/-- What is offered: a title of an indexer, published at some time, for a media item. -/
abbrev Offer := MediaId × String × String × Instant

namespace GrabCandidate

/-- What the candidate offers. -/
def offer (candidate : GrabCandidate) : Offer :=
  (candidate.media.id, candidate.release.title, candidate.release.indexer,
    candidate.release.published)

theorem sameRelease_iff_offer {a b : GrabCandidate} :
    a.sameRelease b = true ↔ a.offer = b.offer := by
  rw [sameRelease_iff, offer, offer, Prod.mk.injEq, Prod.mk.injEq, Prod.mk.injEq]

theorem sameRelease_eq (a b : GrabCandidate) : a.sameRelease b = (a.offer == b.offer) := by
  rw [Bool.eq_iff_iff, sameRelease_iff_offer, beq_iff_eq]

end GrabCandidate

namespace PendingRelease

/-- What the release offers. -/
def offer (release : PendingRelease) : Offer :=
  release.candidate.offer

/-- Both are one entry, up to the reason for which it waits. -/
def SameEntry (before after : PendingRelease) : Prop :=
  after = { before with rejection := after.rejection }

namespace SameEntry

variable {first second third : PendingRelease}

theorem refl (release : PendingRelease) : SameEntry release release := rfl

theorem trans (h : SameEntry first second) (h' : SameEntry second third) :
    SameEntry first third := by
  rw [SameEntry] at h h' ⊢
  rw [h', h]

end SameEntry

end PendingRelease

/-! ### Look-up -/

namespace PendingReleases

variable {pending : PendingReleases} {offer : Offer} {release : PendingRelease}

/-- The release that waits and offers this. -/
def waiting? (pending : PendingReleases) (offer : Offer) : Option PendingRelease :=
  pending.releases.find? (·.offer == offer)

theorem offer_of_waiting? (h : pending.waiting? offer = some release) : release.offer = offer := by
  have hfound := List.find?_some h
  exact beq_iff_eq.mp hfound

theorem mem_of_waiting? (h : pending.waiting? offer = some release) :
    release ∈ pending.releases :=
  List.mem_of_find?_eq_some h

/-- Releases that offer something else may be taken out. -/
theorem waiting?_filter_of_keep {keep : PendingRelease → Bool}
    (hkeep : ∀ release : PendingRelease, release.offer = offer → keep release = true)
    (pending : PendingReleases) :
    waiting? { pending with releases := pending.releases.filter keep } offer =
      pending.waiting? offer := by
  have hboth : (fun release : PendingRelease => decide (keep release = true ∧
      (release.offer == offer) = true)) = fun release => release.offer == offer := by
    funext release
    rw [Bool.eq_iff_iff, decide_eq_true_iff, beq_iff_eq]
    exact ⟨And.right, fun hoffer => ⟨hkeep release hoffer, hoffer⟩⟩
  rw [waiting?, List.find?_filter, hboth, waiting?]

/-- Once all that offer this are taken out, nothing that offers it waits. -/
theorem waiting?_filter_of_drop {keep : PendingRelease → Bool}
    (hdrop : ∀ release : PendingRelease, release.offer = offer → keep release = false)
    (pending : PendingReleases) :
    waiting? { pending with releases := pending.releases.filter keep } offer = none := by
  refine List.find?_eq_none.mpr fun release hmem hoffer => ?_
  have hkept := (List.mem_filter.mp hmem).2
  rw [hdrop release (beq_iff_eq.mp hoffer)] at hkept
  exact Bool.false_ne_true hkept

theorem waiting?_removeForMedia (pending : PendingReleases) (mediaId : MediaId) (offer : Offer) :
    (pending.removeForMedia mediaId).2.waiting? offer =
      if offer.1 = mediaId then none else pending.waiting? offer := by
  split
  next hmedia =>
    refine waiting?_filter_of_drop (fun release hoffer => ?_) pending
    rw [bne_eq_false_iff_eq, ← hmedia, ← hoffer]
    rfl
  next hmedia =>
    refine waiting?_filter_of_keep (fun release hoffer => ?_) pending
    rw [bne_iff_ne]
    rintro rfl
    exact hmedia (congrArg Prod.fst hoffer.symm)

theorem waiting?_removeRelease (pending : PendingReleases) (candidate : GrabCandidate)
    (offer : Offer) :
    (pending.removeRelease candidate).2.waiting? offer =
      if candidate.offer = offer then none else pending.waiting? offer := by
  split
  next hsame =>
    refine waiting?_filter_of_drop (fun release hoffer => ?_) pending
    rw [Bool.not_eq_false', GrabCandidate.sameRelease_iff_offer]
    exact hoffer.trans hsame.symm
  next hother =>
    refine waiting?_filter_of_keep (fun release hoffer => ?_) pending
    rw [Bool.not_eq_true', ← Bool.not_eq_true, GrabCandidate.sameRelease_iff_offer]
    exact fun hsame => hother (hsame.symm.trans hoffer)

/-- Renewing changes the first release of the candidate in place. -/
theorem find?_renew? {candidate : GrabCandidate} {rejection : Rejection} (offer : Offer) :
    ∀ {releases renewed : List PendingRelease},
      renew? candidate rejection releases = some renewed →
      renewed.find? (·.offer == offer) =
        (releases.find? (·.offer == offer)).map fun release =>
          if candidate.offer = offer then { release with rejection } else release := by
  intro releases
  induction releases with
  | nil => exact fun h => nomatch h
  | cons first rest ih =>
    intro renewed h
    rw [renew?] at h
    by_cases hsame : first.candidate.sameRelease candidate = true
    · rw [if_pos hsame] at h
      obtain rfl : { first with rejection } :: rest = renewed := Option.some.inj h
      have hoffer : first.offer = candidate.offer := GrabCandidate.sameRelease_iff_offer.mp hsame
      have hkept : PendingRelease.offer { first with rejection } = first.offer := rfl
      rw [List.find?_cons, List.find?_cons, hkept, hoffer]
      -- those behind the first are found as before, for whatever offer
      cases hfound : candidate.offer == offer with
      | true => rw [Option.map_some, if_pos (beq_iff_eq.mp hfound)]
      | false =>
        have hother : candidate.offer ≠ offer := beq_eq_false_iff_ne.mp hfound
        simp only [if_neg hother, Option.map_id']
    · rw [if_neg hsame, Option.map_eq_some_iff] at h
      obtain ⟨tail, htail, rfl⟩ := h
      rw [List.find?_cons, List.find?_cons, ih htail]
      cases hfound : first.offer == offer with
      | false => rfl
      | true =>
        have hother : candidate.offer ≠ offer := by
          rintro rfl
          exact hsame (GrabCandidate.sameRelease_iff_offer.mpr (beq_iff_eq.mp hfound))
        rw [Option.map_some, if_neg hother]

theorem renew?_eq_none {candidate : GrabCandidate} {rejection : Rejection} :
    ∀ {releases : List PendingRelease}, renew? candidate rejection releases = none →
      ∀ release ∈ releases, release.offer ≠ candidate.offer := by
  intro releases
  induction releases with
  | nil => exact fun _ release hmem => absurd hmem List.not_mem_nil
  | cons first rest ih =>
    intro h
    rw [renew?] at h
    split at h
    · exact absurd h (Option.some_ne_none _)
    next hother =>
      rw [GrabCandidate.sameRelease_iff_offer] at hother
      exact List.forall_mem_cons.mpr ⟨hother, ih (Option.map_eq_none_iff.mp h)⟩

/-- **What is set aside waits**: as it did, for the new reason, or as a new entry. -/
theorem waiting?_add_self (pending : PendingReleases) (candidate : GrabCandidate)
    (rejection : Rejection) (now : Instant) :
    (pending.add candidate rejection now).2.waiting? candidate.offer =
      some (match pending.waiting? candidate.offer with
        | some release => { release with rejection }
        | none => ⟨.pending pending.nextSerial, candidate, rejection, now⟩) := by
  rw [add]
  cases hrenew : renew? candidate rejection pending.releases with
  | some renewed =>
    have hfound := find?_renew? candidate.offer hrenew
    cases hwaiting : pending.waiting? candidate.offer with
    | some release =>
      rw [waiting?] at hwaiting ⊢
      rw [hfound, hwaiting, Option.map_some, if_pos rfl]
    | none =>
      obtain ⟨front, first, back, hsplit, hsame, -⟩ := renew?_eq_some hrenew
      have hmem : first ∈ pending.releases := by
        rw [hsplit]
        exact List.mem_append_right _ List.mem_cons_self
      have hnot := List.find?_eq_none.mp hwaiting first hmem
      exact absurd (beq_iff_eq.mpr (GrabCandidate.sameRelease_iff_offer.mp hsame)) hnot
  | none =>
    have hnone : pending.waiting? candidate.offer = none :=
      List.find?_eq_none.mpr fun release hmem hoffer =>
        renew?_eq_none hrenew release hmem (beq_iff_eq.mp hoffer)
    rw [hnone]
    rw [waiting?] at hnone ⊢
    rw [List.find?_append, hnone, Option.none_or, List.find?_singleton, if_pos]
    exact beq_self_eq_true candidate.offer

theorem waiting?_add_of_ne {candidate : GrabCandidate} (hne : candidate.offer ≠ offer)
    (pending : PendingReleases) (rejection : Rejection) (now : Instant) :
    (pending.add candidate rejection now).2.waiting? offer = pending.waiting? offer := by
  rw [add]
  cases hrenew : renew? candidate rejection pending.releases with
  | some renewed =>
    refine (find?_renew? offer hrenew).trans ?_
    simp only [if_neg hne, Option.map_id']
    rfl
  | none =>
    have hother : ¬ (candidate.offer == offer) = true := by
      rw [beq_iff_eq]
      exact hne
    rw [waiting?, List.find?_append, List.find?_singleton, PendingRelease.offer, if_neg hother,
      Option.or_none, waiting?]

/-! ### Nothing waits twice -/

/-- No two releases offer the same. -/
def Once (pending : PendingReleases) : Prop :=
  (pending.releases.map (·.offer)).Nodup

namespace Once

theorem empty : Once .empty := List.nodup_nil

/-- Every release is found by what it offers. -/
theorem waiting?_of_mem (h : pending.Once) (hmem : release ∈ pending.releases) :
    pending.waiting? release.offer = some release := by
  cases hwaiting : pending.waiting? release.offer with
  | none =>
    have hnot := List.find?_eq_none.mp hwaiting release hmem
    exact absurd (beq_self_eq_true release.offer) hnot
  | some found =>
    have hsame := offer_of_waiting? hwaiting
    rw [List.inj_on_of_nodup_map h (mem_of_waiting? hwaiting) hmem hsame]

/-- What offers this is the one release that waits, if any. -/
theorem filter_eq (h : pending.Once) (offer : Offer) :
    pending.releases.filter (·.offer == offer) = (pending.waiting? offer).toList := by
  cases hwaiting : pending.waiting? offer with
  | none =>
    refine List.filter_eq_nil_iff.mpr fun release hmem hoffer => ?_
    exact List.find?_eq_none.mp hwaiting release hmem hoffer
  | some release =>
    obtain ⟨hoffer, front, back, hsplit, hfront⟩ := List.find?_eq_some_iff_append.mp hwaiting
    have hback : ∀ other ∈ back, ¬ (other.offer == offer) = true := by
      intro other hmem hother
      rw [Once, hsplit, List.map_append, List.map_cons] at h
      have hfresh := (List.nodup_cons.mp (List.nodup_append.mp h).2.1).1
      rw [beq_iff_eq.mp hoffer, ← beq_iff_eq.mp hother] at hfresh
      exact hfresh (List.mem_map_of_mem hmem)
    have hbefore : ∀ other ∈ front, ¬ (other.offer == offer) = true := by
      intro other hmem hother
      have hnot := hfront other hmem
      rw [hother] at hnot
      exact Bool.false_ne_true hnot
    have hself : (release :: back).filter (·.offer == offer) =
        release :: back.filter (·.offer == offer) := List.filter_cons_of_pos hoffer
    rw [hsplit, List.filter_append, hself, List.filter_eq_nil_iff.mpr hbefore,
      List.filter_eq_nil_iff.mpr hback]
    rfl

/-- Releases taken out. -/
theorem sublist (h : pending.Once) {after : PendingReleases}
    (hsublist : after.releases.Sublist pending.releases) : after.Once :=
  List.Nodup.sublist (hsublist.map _) h

/-- A release set aside. -/
theorem add (h : pending.Once) (candidate : GrabCandidate) (rejection : Rejection)
    (now : Instant) : (pending.add candidate rejection now).2.Once := by
  rw [PendingReleases.add]
  cases hrenew : renew? candidate rejection pending.releases with
  | some renewed =>
    obtain ⟨front, first, back, hsplit, -, hrenewed⟩ := renew?_eq_some hrenew
    have hoffers : renewed.map (·.offer) = pending.releases.map (·.offer) := by
      rw [hrenewed, hsplit, List.map_append, List.map_append, List.map_cons, List.map_cons]
      rfl
    have honce : (renewed.map (·.offer)).Nodup := by
      rw [hoffers]
      exact h
    exact honce
  | none =>
    have hfresh : candidate.offer ∉ pending.releases.map (·.offer) := by
      intro hmem
      obtain ⟨old, hold, hsame⟩ := List.mem_map.mp hmem
      exact renew?_eq_none hrenew old hold hsame
    rw [Once, List.map_append, List.map_singleton, ← List.concat_eq_append]
    exact List.Nodup.concat hfresh h

end Once

/-! ### One entry -/

/-- What waits before and after, and offers the same, is one entry. -/
def Persists (before after : PendingReleases) : Prop :=
  ∀ offer release later, before.waiting? offer = some release →
    after.waiting? offer = some later → release.SameEntry later

namespace Persists

variable {after : PendingReleases}

/-- Releases taken out. -/
theorem of_sublist (h : pending.Once) (hsublist : after.releases.Sublist pending.releases) :
    Persists pending after := by
  intro offer release later hrelease hlater
  have hbefore := h.waiting?_of_mem (hsublist.subset (mem_of_waiting? hlater))
  rw [offer_of_waiting? hlater, hrelease] at hbefore
  obtain rfl : release = later := Option.some.inj hbefore
  exact .refl release

/-- A release set aside. -/
theorem add (pending : PendingReleases) (candidate : GrabCandidate) (rejection : Rejection)
    (now : Instant) : Persists pending (pending.add candidate rejection now).2 := by
  intro offer release later hrelease hlater
  by_cases hoffer : candidate.offer = offer
  · subst hoffer
    rw [waiting?_add_self, hrelease] at hlater
    obtain rfl := Option.some.inj hlater
    exact rfl
  · rw [waiting?_add_of_ne hoffer, hrelease] at hlater
    obtain rfl : release = later := Option.some.inj hlater
    exact .refl release

end Persists

end PendingReleases

end Acquisition
