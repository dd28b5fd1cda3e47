import Acquisition.Upgrade

/-!
# Beating what is there

Three questions decide whether a quality model may take the place of another one: does it rank
above it, is the replacement allowed, is what exists good enough already.  For a candidate that
the profile wants they come down to one condition: a higher revision of the same tier, where
redone releases are wanted, or a better tier, where the profile allows upgrades and the cutoff is
not met.

## Main definitions

* `Revision.Below`: the strict order of revisions.
* `UpgradePolicy.Beats`: the condition on the tiers and revisions alone.

## Main results

* `Profile.id_eq_of_rank_eq`: a wanted tier shares its rank with no other tier.
* `UpgradePolicy.replaces_iff_beats`: the three questions together are `UpgradePolicy.Beats`.
-/

namespace Acquisition

/-! ### The order of revisions -/

namespace Revision

/-- Fewer marks of a real fix, or equally many and a lower version. -/
def Below (a b : Revision) : Prop :=
  a.real < b.real ∨ (a.real = b.real ∧ a.version < b.version)

instance (a b : Revision) : Decidable (a.Below b) :=
  inferInstanceAs (Decidable (_ ∨ _))

theorem cmp_eq_gt {a b : Revision} : a.cmp b = .gt ↔ b.Below a := by
  rw [cmp, Ordering.then_eq_gt, Nat.compare_eq_gt, Nat.compare_eq_eq, Nat.compare_eq_gt, Below,
    eq_comm (a := a.real)]

end Revision

/-! ### Ranks -/

namespace Quality

theorem same_iff {a b : Quality} : a.same b = true ↔ a.id = b.id := by
  rw [same, beq_iff_eq]

end Quality

namespace Profile

/-- A profile ranks a tier by its number alone. -/
theorem rank_congr (profile : Profile) {a b : Quality} (h : a.id = b.id) :
    profile.rank a = profile.rank b := by
  simp only [rank, indexOf?, wants, Quality.same, h]

theorem isAllowed_iff {profile : Profile} {quality : Quality} :
    profile.isAllowed quality = true ↔ 0 < profile.rank quality := by
  rw [isAllowed, decide_eq_true_eq]

/-- The item at the rank of a wanted tier is one of that tier. -/
theorem exists_item_of_rank_eq_succ {profile : Profile} {quality : Quality} {i : Nat}
    (h : profile.rank quality = i + 1) :
    ∃ item, profile.items[i]? = some item ∧ item.quality.id = quality.id := by
  rw [rank] at h
  cases hindex : profile.indexOf? quality with
  | none => rw [hindex] at h; exact absurd h (by simp)
  | some j =>
    rw [hindex] at h
    obtain rfl : j = i := by simpa using h
    rw [indexOf?, List.findIdx?_eq_some_iff_getElem] at hindex
    obtain ⟨hlt, hwants, -⟩ := hindex
    refine ⟨profile.items[j], List.getElem?_eq_getElem hlt, ?_⟩
    rw [wants, Bool.and_eq_true] at hwants
    exact Quality.same_iff.mp hwants.2

/-- **A wanted tier shares its rank with no other tier.** -/
theorem id_eq_of_rank_eq {profile : Profile} {a b : Quality} (ha : 0 < profile.rank a)
    (h : profile.rank a = profile.rank b) : a.id = b.id := by
  obtain ⟨i, hi⟩ : ∃ i, profile.rank a = i + 1 := ⟨profile.rank a - 1, by omega⟩
  obtain ⟨item, hitem, hia⟩ := exists_item_of_rank_eq_succ hi
  obtain ⟨other, hother, hib⟩ := exists_item_of_rank_eq_succ (h ▸ hi)
  obtain rfl : item = other := Option.some.inj (hitem.symm.trans hother)
  rw [← hia, hib]

theorem cmpQuality_eq_gt {profile : Profile} {a b : Quality} :
    profile.cmpQuality a b = .gt ↔ profile.rank b < profile.rank a := by
  rw [cmpQuality, Nat.compare_eq_gt]

theorem cmp_eq_gt {profile : Profile} {a b : QualityModel} :
    profile.cmp a b = .gt ↔ profile.rank b.quality < profile.rank a.quality ∨
      (profile.rank a.quality = profile.rank b.quality ∧ b.revision.Below a.revision) := by
  rw [cmp, Ordering.then_eq_gt, cmpQuality_eq_gt, Revision.cmp_eq_gt, cmpQuality,
    Nat.compare_eq_eq]

theorem cutoffMet_eq_false {profile : Profile} {quality : Quality} :
    profile.cutoffMet quality = false ↔ profile.rank quality < profile.rank profile.cutoff := by
  rw [cutoffMet, decide_eq_false_iff_not, Nat.not_le]

end Profile

/-! ### Replacing -/

namespace UpgradePolicy

/-- The candidate is a redone release of the tier that exists, and a later one. -/
def Redoes (existing candidate : QualityModel) : Prop :=
  existing.quality.id = candidate.quality.id ∧ existing.revision.Below candidate.revision

/-- The candidate is of a better tier, and the profile wants more than what exists. -/
def Improves (profile : Profile) (existing candidate : QualityModel) : Prop :=
  profile.rank existing.quality < profile.rank candidate.quality ∧
    profile.upgradeAllowed = true ∧
    profile.rank existing.quality < profile.rank profile.cutoff

/-- The candidate may take the place of what exists: as a redone release where those are wanted,
or as an improvement. -/
def Beats (policy : UpgradePolicy) (profile : Profile) (existing candidate : QualityModel) :
    Prop :=
  (Redoes existing candidate ∧ policy.propersAndRepacks = true) ∨
    Improves profile existing candidate

theorem isRevisionUpgrade_iff {existing candidate : QualityModel} :
    isRevisionUpgrade existing candidate = true ↔ Redoes existing candidate := by
  rw [isRevisionUpgrade, Bool.and_eq_true, Quality.same_iff, beq_iff_eq, Revision.cmp_eq_gt, Redoes]

theorem isUpgrade_iff {profile : Profile} {existing candidate : QualityModel} :
    isUpgrade profile existing candidate = true ↔
      profile.rank existing.quality < profile.rank candidate.quality ∨
        (profile.rank candidate.quality = profile.rank existing.quality ∧
          existing.revision.Below candidate.revision) := by
  rw [isUpgrade, beq_iff_eq, Profile.cmp_eq_gt]

section Replacing

variable {policy : UpgradePolicy} {profile : Profile} {existing candidate : QualityModel}

/-- A redone release ranks above, is allowed where redone releases are wanted, and no cutoff
holds it back. -/
theorem replaces_of_redoes (policy : UpgradePolicy) (profile : Profile)
    (h : Redoes existing candidate) :
    isUpgrade profile existing candidate = true ∧
      policy.isAllowed profile existing candidate = policy.propersAndRepacks ∧
      cutoffBlocks profile existing candidate = false := by
  have hrevision := isRevisionUpgrade_iff.mpr h
  refine ⟨isUpgrade_iff.mpr (Or.inr ⟨profile.rank_congr h.1.symm, h.2⟩), ?_, ?_⟩
  · rw [isAllowed, if_pos hrevision]
  · rw [cutoffBlocks, hrevision, Bool.not_true, Bool.and_false]

/-- Any other candidate that is wanted has to be an improvement. -/
theorem replaces_iff_improves (hwanted : profile.isAllowed candidate.quality = true)
    (h : ¬ Redoes existing candidate) :
    (isUpgrade profile existing candidate = true ∧
      policy.isAllowed profile existing candidate = true ∧
      cutoffBlocks profile existing candidate = false) ↔ Improves profile existing candidate := by
  have hrevision : isRevisionUpgrade existing candidate = false := by
    rw [← Bool.not_eq_true, isRevisionUpgrade_iff]; exact h
  have hcutoff : cutoffBlocks profile existing candidate = false ↔
      profile.rank existing.quality < profile.rank profile.cutoff := by
    rw [cutoffBlocks, hrevision, Bool.not_false, Bool.and_true, Profile.cutoffMet_eq_false]
  -- of equal rank they would be of one tier, and the candidate a redone release of it
  have hrank : isUpgrade profile existing candidate = true ↔
      profile.rank existing.quality < profile.rank candidate.quality := by
    rw [isUpgrade_iff, or_iff_left_iff_imp]
    rintro ⟨heq, hbelow⟩
    have hid := Profile.id_eq_of_rank_eq (Profile.isAllowed_iff.mp hwanted) heq
    exact absurd ⟨hid.symm, hbelow⟩ h
  rw [hrank, hcutoff, Improves]
  refine and_congr_right fun hlt => and_congr_left fun _ => ?_
  rw [isAllowed, hrevision, if_neg Bool.false_ne_true, Profile.cmpQuality_eq_gt.mpr hlt]
  simp

/-- **A wanted candidate may replace what exists exactly if it beats it**: the three questions
about rank, permission and cutoff come down to one condition. -/
theorem replaces_iff_beats (hwanted : profile.isAllowed candidate.quality = true) :
    (isUpgrade profile existing candidate = true ∧
      policy.isAllowed profile existing candidate = true ∧
      cutoffBlocks profile existing candidate = false) ↔
      policy.Beats profile existing candidate := by
  by_cases h : Redoes existing candidate
  · obtain ⟨hrank, hallowed, hcutoff⟩ := replaces_of_redoes policy profile h
    rw [hrank, hallowed, hcutoff, Beats]
    have hid := profile.rank_congr h.1
    simp only [true_and, and_true, h, Improves, hid, Nat.lt_irrefl, false_and, or_false]
  · rw [replaces_iff_improves hwanted h, Beats]
    simp only [h, false_and, false_or]

end Replacing

end UpgradePolicy

end Acquisition
