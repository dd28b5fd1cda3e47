import Acquisition.Proofs.Grab.Admission
import Mathlib.Data.List.Nodup

/-!
# The order of quality models

A profile that makes sense lists every tier once, wants at least one, and has a cutoff among those
that it wants.  Under such a profile the order of quality models can be relied on: it is a total
preorder that tells wanted models apart, wanted tiers rank above all others, and the cutoff is a
threshold in it.  What is replaced by something that ranks above it therefore never comes back.

## Main definitions

* `Profile.Supersedes`: the engine accepts a candidate of one quality model for a file of another.
* `Profile.RanksSoundly`: what is asked of the order of a profile.

## Main results

* `Profile.faults_eq_nil_iff`: what a profile without faults is like.
* `Profile.rank_le_of_lastAllowed?`: no tier ranks above the last one that is wanted.
* `Profile.pairwise_of_chain`: a chain of upgrades climbs from each model to all later ones.
* `Profile.ranks_soundly`: **the order of every profile that is accepted can be relied on.**
-/

namespace Acquisition

namespace QualityModel

theorem same_iff {a b : QualityModel} :
    a.same b = true ↔ a.quality.id = b.quality.id ∧ a.revision = b.revision := by
  rw [same, Bool.and_eq_true, Quality.same_iff, beq_iff_eq]

theorem same_symm {a b : QualityModel} (h : a.same b = true) : b.same a = true := by
  rw [same_iff] at h ⊢
  exact ⟨h.1.symm, h.2.symm⟩

theorem same_trans {a b c : QualityModel} (hab : a.same b = true) (hbc : b.same c = true) :
    a.same c = true := by
  rw [same_iff] at hab hbc ⊢
  exact ⟨hab.1.trans hbc.1, hab.2.trans hbc.2⟩

end QualityModel

namespace Profile

/-! ### Profiles without faults -/

/-- Nothing is repeated exactly if no tier is listed twice, nor one that was seen before. -/
theorem repeatsAfter_eq_nil_iff {items : List ProfileItem} : ∀ {seen : List Nat},
    repeatsAfter seen items = [] ↔
      (items.map (·.quality.id)).Nodup ∧ ∀ item ∈ items, item.quality.id ∉ seen := by
  induction items with
  | nil => intro seen; exact iff_of_true rfl ⟨List.nodup_nil, List.forall_mem_nil _⟩
  | cons item items ih =>
    intro seen
    rw [repeatsAfter, List.map_cons, List.nodup_cons, List.forall_mem_cons]
    by_cases hseen : item.quality.id ∈ seen
    · rw [if_pos (List.contains_iff_mem.mpr hseen)]
      exact iff_of_false (List.cons_ne_nil _ _) fun h => h.2.1 hseen
    · rw [if_neg (mt List.contains_iff_mem.mp hseen), ih]
      have hfresh : item.quality.id ∉ items.map (·.quality.id) ↔
          ∀ other ∈ items, other.quality.id ≠ item.quality.id := by
        rw [List.mem_map]
        exact ⟨fun h other hmem heq => h ⟨other, hmem, heq⟩,
          fun h ⟨other, hmem, heq⟩ => h other hmem heq⟩
      simp only [hfresh, List.mem_cons, not_or, forall_and]
      tauto

/-- A tier is wanted exactly if some item makes the profile want it. -/
theorem isAllowed_eq_any (profile : Profile) (quality : Quality) :
    profile.isAllowed quality = profile.items.any (wants · quality) := by
  rw [← List.findIdx?_isSome, isAllowed, rank, indexOf?]
  cases profile.items.findIdx? (wants · quality) with
  | none => rfl
  | some i => exact decide_eq_true (Nat.succ_pos i)

/-- What a profile without faults is like. -/
theorem faults_eq_nil_iff {profile : Profile} : profile.faults = [] ↔
    Text.isBlankText profile.name = false ∧ profile.items.any (·.allowed) = true ∧
      (profile.items.map (·.quality.id)).Nodup ∧ profile.isAllowed profile.cutoff = true := by
  have hrepeats : repeatsAfter [] profile.items = [] ↔
      (profile.items.map (·.quality.id)).Nodup := by
    rw [repeatsAfter_eq_nil_iff]
    exact and_iff_left fun item _ => List.not_mem_nil
  rw [faults, isAllowed_eq_any]
  simp only [List.append_eq_nil_iff, List.map_eq_nil_iff, hrepeats, and_assoc]
  cases Text.isBlankText profile.name <;> cases profile.items.any (·.allowed) <;>
    cases profile.items.any (wants · profile.cutoff) <;> simp

theorem mem_faults_iff {profile : Profile} {fault : ProfileFault} : fault ∈ profile.faults ↔
    (fault = .blankName ∧ Text.isBlankText profile.name = true) ∨
    (fault = .nothingAllowed ∧ profile.items.any (·.allowed) = false) ∨
    (∃ quality ∈ repeatsAfter [] profile.items, fault = .listedTwice quality) ∨
    (fault = .cutoffNotAllowed profile.cutoff ∧
      profile.items.any (wants · profile.cutoff) = false) := by
  rw [faults, List.mem_append, List.mem_append, List.mem_append, List.mem_map]
  cases Text.isBlankText profile.name <;> cases profile.items.any (·.allowed) <;>
    cases profile.items.any (wants · profile.cutoff) <;> simp [eq_comm, or_assoc]

/-- A profile that is accepted is what it was made of, and has no faults. -/
theorem ofItems_eq_ok_iff {id : ProfileId} {name : String} {items : List ProfileItem}
    {cutoff : Quality} {profile : Profile} : ofItems id name items cutoff = .ok profile ↔
      profile = ⟨id, name, items, cutoff, true⟩ ∧ profile.faults = [] := by
  rw [ofItems]
  cases hfaults : (⟨id, name, items, cutoff, true⟩ : Profile).faults with
  | nil =>
    rw [Except.ok.injEq]
    constructor
    · rintro rfl
      exact ⟨rfl, hfaults⟩
    · rintro ⟨rfl, -⟩
      rfl
  | cons fault faults =>
    refine iff_of_false nofun ?_
    rintro ⟨rfl, hnone⟩
    rw [hfaults] at hnone
    exact List.cons_ne_nil _ _ hnone

/-! ### The order -/

/-- Ranks and revisions are compared as numbers, one after the other. -/
instance (profile : Profile) : Std.TransCmp profile.cmp :=
  inferInstanceAs (Std.TransCmp (compareLex
    (compareOn fun model : QualityModel => profile.rank model.quality)
    (compareLex (compareOn fun model : QualityModel => model.revision.real)
      (compareOn fun model : QualityModel => model.revision.version))))

/-- Models of one rank and one revision are equal in the order, and no others. -/
theorem cmp_eq_eq_iff {profile : Profile} {a b : QualityModel} : profile.cmp a b = .eq ↔
    profile.rank a.quality = profile.rank b.quality ∧ a.revision = b.revision := by
  rw [cmp, Revision.cmp, Ordering.then_eq_eq, Ordering.then_eq_eq, cmpQuality, Nat.compare_eq_eq,
    Nat.compare_eq_eq, Nat.compare_eq_eq]
  refine and_congr_right fun _ => ⟨fun h => ?_, fun h => ⟨congrArg _ h, congrArg _ h⟩⟩
  obtain ⟨hreal, hversion⟩ := h
  cases ha : a.revision
  cases hb : b.revision
  simp_all

/-- Models of one tier and one revision are equal in the order. -/
theorem cmp_eq_eq_of_same (profile : Profile) {a b : QualityModel} (h : a.same b = true) :
    profile.cmp a b = .eq := by
  obtain ⟨hid, hrevision⟩ := QualityModel.same_iff.mp h
  exact cmp_eq_eq_iff.mpr ⟨profile.rank_congr hid, hrevision⟩

theorem isAllowed_eq_false_iff {profile : Profile} {quality : Quality} :
    profile.isAllowed quality = false ↔ profile.rank quality = 0 := by
  rw [isAllowed, decide_eq_false_iff_not, Nat.not_lt, Nat.le_zero]

/-! ### The last tier that is wanted -/

section LastAllowed

variable {profile : Profile} {front back : List ProfileItem} {item : ProfileItem}

/-- Where no item after a place is wanted, no tier ranks above that place. -/
theorem rank_le_of_split (hitems : profile.items = front ++ item :: back)
    (hback : ∀ other ∈ back, other.allowed = false) (quality : Quality) :
    profile.rank quality ≤ front.length + 1 := by
  have hnone : back.findIdx? (wants · quality) = none := by
    rw [List.findIdx?_eq_none_iff]
    intro other hmem
    rw [wants, hback other hmem, Bool.false_and]
  rw [rank, indexOf?, hitems, List.findIdx?_append, List.findIdx?_cons, hnone]
  cases hfront : front.findIdx? (wants · quality) with
  | some i =>
    have hlt : i < front.length := (List.findIdx?_eq_some_iff_getElem.mp hfront).1
    exact Nat.succ_le_succ (Nat.le_of_lt hlt)
  | none =>
    cases wants item quality
    · exact Nat.zero_le _
    · simp

/-- A wanted item whose tier is not listed before it gives that tier its place. -/
theorem rank_eq_of_split (hitems : profile.items = front ++ item :: back)
    (hallowed : item.allowed = true)
    (hfresh : ∀ other ∈ front, other.quality.id ≠ item.quality.id) :
    profile.rank item.quality = front.length + 1 := by
  have hnone : front.findIdx? (wants · item.quality) = none := by
    rw [List.findIdx?_eq_none_iff]
    intro other hmem
    have hother : other.quality.same item.quality = false := by
      rw [← Bool.not_eq_true, Quality.same_iff]
      exact hfresh other hmem
    rw [wants, hother, Bool.and_false]
  have hself : wants item item.quality = true := by
    rw [wants, hallowed, Quality.same_iff.mpr rfl, Bool.and_self]
  rw [rank, indexOf?, hitems, List.findIdx?_append, hnone, List.findIdx?_cons, hself]
  simp

/-- **The last tier that is wanted is the best**: a profile without faults has one, and no tier
ranks above it. -/
theorem exists_lastAllowed? (hfaults : profile.faults = []) :
    ∃ best, profile.lastAllowed? = some best ∧ profile.isAllowed best = true ∧
      ∀ quality, profile.rank quality ≤ profile.rank best := by
  obtain ⟨-, hany, hnodup, -⟩ := faults_eq_nil_iff.mp hfaults
  have hsome : (profile.items.reverse.find? (·.allowed)).isSome = true := by
    rw [List.find?_isSome, ← List.any_eq_true, List.any_reverse]
    exact hany
  obtain ⟨item, hitem⟩ := Option.isSome_iff_exists.mp hsome
  obtain ⟨hallowed, back, front, hsplit, hback⟩ := List.find?_eq_some_iff_append.mp hitem
  have hitems : profile.items = front.reverse ++ item :: back.reverse := by
    rw [← List.reverse_reverse profile.items, hsplit]
    simp
  -- the tier of the item is listed only once
  have hfresh : ∀ other ∈ front.reverse, other.quality.id ≠ item.quality.id := by
    rw [hitems, List.map_append, List.map_cons] at hnodup
    intro other hmem heq
    exact (List.nodup_append.mp hnodup).2.2 _ (List.mem_map_of_mem hmem) _ List.mem_cons_self heq
  have hrank := rank_eq_of_split hitems hallowed hfresh
  refine ⟨item.quality, ?_, ?_, fun quality => ?_⟩
  · rw [lastAllowed?, hitem, Option.map_some]
  · rw [isAllowed_iff, hrank]
    exact Nat.succ_pos _
  · rw [hrank]
    refine rank_le_of_split hitems (fun other hmem => ?_) quality
    simpa using hback other (List.mem_reverse.mp hmem)

end LastAllowed

/-! ### Climbing -/

/-- The candidate ranks above what exists in the order of the profile. -/
theorem isUpgrade_iff_cmp {profile : Profile} {existing candidate : QualityModel} :
    UpgradePolicy.isUpgrade profile existing candidate = true ↔
      profile.cmp candidate existing = .gt := by
  rw [UpgradePolicy.isUpgrade, beq_iff_eq]

theorem isUpgrade_irrefl (profile : Profile) (model : QualityModel) :
    UpgradePolicy.isUpgrade profile model model = false := by
  have hself : profile.cmp model model = .eq := Std.ReflCmp.compare_self
  rw [← Bool.not_eq_true, isUpgrade_iff_cmp, hself]
  exact nofun

theorem isUpgrade_trans {profile : Profile} {a b c : QualityModel}
    (hab : UpgradePolicy.isUpgrade profile a b = true)
    (hbc : UpgradePolicy.isUpgrade profile b c = true) :
    UpgradePolicy.isUpgrade profile a c = true := by
  rw [isUpgrade_iff_cmp] at hab hbc ⊢
  exact Std.TransCmp.gt_trans hbc hab

/-- A model in place of which another one was put is not that one. -/
theorem not_same_of_isUpgrade {profile : Profile} {existing candidate : QualityModel}
    (h : UpgradePolicy.isUpgrade profile existing candidate = true) :
    candidate.same existing = false := by
  rw [← Bool.not_eq_true]
  intro hsame
  rw [isUpgrade_iff_cmp, profile.cmp_eq_eq_of_same hsame] at h
  exact absurd h nofun

/-- A chain of upgrades climbs from each model to all later ones. -/
theorem pairwise_of_chain {profile : Profile} {models : List QualityModel}
    (hchain : models.IsChain fun existing candidate =>
      UpgradePolicy.isUpgrade profile existing candidate = true) :
    models.Pairwise fun existing candidate =>
      UpgradePolicy.isUpgrade profile existing candidate = true ∧
        candidate.same existing = false := by
  have : Trans (fun a b => UpgradePolicy.isUpgrade profile a b = true)
      (fun a b => UpgradePolicy.isUpgrade profile a b = true)
      (fun a b => UpgradePolicy.isUpgrade profile a b = true) := ⟨isUpgrade_trans⟩
  exact hchain.pairwise.imp fun h => ⟨h, not_same_of_isUpgrade h⟩

/-- Some candidate of the second model is accepted for a media item that has a file of the first,
by a standard engine over some collaborators. -/
def Supersedes (profile : Profile) (existing next : QualityModel) : Prop :=
  ∃ (σ : Type) (deps : GrabRules σ) (candidate : GrabCandidate) (context : Option SearchContext)
    (s : σ) (file : MediaFile),
    (deps.engine.decide candidate context s).1 = .accepted ∧ candidate.profile = profile ∧
      candidate.quality = next ∧ candidate.media.file = some file ∧ file.quality = existing

/-- What is accepted in place of a file ranks above it. -/
theorem Supersedes.isUpgrade {profile : Profile} {existing next : QualityModel}
    (h : profile.Supersedes existing next) :
    UpgradePolicy.isUpgrade profile existing next = true := by
  obtain ⟨σ, deps, candidate, context, s, file, haccepted, rfl, rfl, hfile, rfl⟩ := h
  have hverdict := GrabRules.decide_accepts_iff.mp haccepted GrabRules.upgradeDisk
    (by simp [GrabRules.rules])
  exact GrabRules.upgradeDisk_accepts_iff.mp hverdict file hfile

/-! ### What can be relied on -/

/-- What is asked of the order of a profile. -/
structure RanksSoundly (profile : Profile) : Prop where
  refl : ∀ a, profile.cmp a a = .eq
  swap : ∀ a b, profile.cmp b a = (profile.cmp a b).swap
  lt_trans : ∀ a b c, profile.cmp a b = .lt → profile.cmp b c = .lt → profile.cmp a c = .lt
  eq_trans : ∀ a b c, profile.cmp a b = .eq → profile.cmp b c = .eq → profile.cmp a c = .eq
  le_trans : ∀ a b c, (profile.cmp a b).isLE = true → (profile.cmp b c).isLE = true →
    (profile.cmp a c).isLE = true
  /-- Wanted models that are equal in the order are of one tier and one revision. -/
  apart : ∀ a b, profile.isAllowed a.quality = true → profile.isAllowed b.quality = true →
    profile.cmp a b = .eq → a.quality.id = b.quality.id ∧ a.revision = b.revision
  /-- Every model of a wanted tier ranks above every model of another tier. -/
  wanted : ∀ a b, profile.isAllowed a.quality = true → profile.isAllowed b.quality = false →
    profile.cmp a b = .gt
  /-- The last wanted tier exists, and no tier ranks above it. -/
  best : ∃ best, profile.lastAllowed? = some best ∧ profile.isAllowed best = true ∧
    ∀ quality, profile.cmpQuality quality best ≠ .gt
  /-- A tier that is not wanted is not good enough. -/
  unmet : ∀ quality, profile.isAllowed quality = false → profile.cutoffMet quality = false
  /-- What does not rank below a tier that is good enough is good enough. -/
  upward : ∀ a b, profile.cutoffMet a = true → profile.cmpQuality a b ≠ .gt →
    profile.cutoffMet b = true
  upgrade_irrefl : ∀ a, UpgradePolicy.isUpgrade profile a a = false
  upgrade_trans : ∀ a b c, UpgradePolicy.isUpgrade profile a b = true →
    UpgradePolicy.isUpgrade profile b c = true → UpgradePolicy.isUpgrade profile a c = true
  /-- A chain of upgrades never comes back to a model that was replaced. -/
  climbs : ∀ models : List QualityModel,
    (models.IsChain fun existing next => UpgradePolicy.isUpgrade profile existing next = true) →
      models.Pairwise fun earlier later => later.same earlier = false
  /-- Nor does a chain of files, each accepted by the standard engine in place of the one before. -/
  lasts : ∀ models : List QualityModel, models.IsChain profile.Supersedes →
    models.Pairwise fun earlier later => later.same earlier = false

/-- A profile without faults wants its cutoff, so that what is not wanted falls short of it. -/
theorem cutoffMet_eq_false_of_not_allowed {profile : Profile} (hfaults : profile.faults = [])
    {quality : Quality} (h : profile.isAllowed quality = false) :
    profile.cutoffMet quality = false := by
  have hcutoff := (faults_eq_nil_iff.mp hfaults).2.2.2
  rw [cutoffMet_eq_false, isAllowed_eq_false_iff.mp h]
  exact isAllowed_iff.mp hcutoff

theorem ranksSoundly_of_faults {profile : Profile} (hfaults : profile.faults = []) :
    profile.RanksSoundly where
  refl _ := Std.ReflCmp.compare_self
  swap _ _ := Std.OrientedCmp.eq_swap
  lt_trans _ _ _ := Std.TransCmp.lt_trans
  eq_trans _ _ _ := Std.TransCmp.eq_trans
  le_trans _ _ _ := Std.TransCmp.isLE_trans
  apart a b ha _ hequal := by
    obtain ⟨hrank, hrevision⟩ := cmp_eq_eq_iff.mp hequal
    exact ⟨id_eq_of_rank_eq (isAllowed_iff.mp ha) hrank, hrevision⟩
  wanted a b ha hb := by
    refine cmp_eq_gt.mpr (Or.inl ?_)
    rw [isAllowed_eq_false_iff.mp hb]
    exact isAllowed_iff.mp ha
  best := by
    obtain ⟨best, hlast, hallowed, hrank⟩ := exists_lastAllowed? hfaults
    refine ⟨best, hlast, hallowed, fun quality hgt => ?_⟩
    exact Nat.not_lt.mpr (hrank quality) (cmpQuality_eq_gt.mp hgt)
  unmet _ := cutoffMet_eq_false_of_not_allowed hfaults
  upward a b hmet hle := by
    rw [cutoffMet, decide_eq_true_eq] at hmet ⊢
    exact Nat.le_trans hmet (Nat.not_lt.mp (mt cmpQuality_eq_gt.mpr hle))
  upgrade_irrefl := isUpgrade_irrefl profile
  upgrade_trans _ _ _ := isUpgrade_trans
  climbs _ hchain := (pairwise_of_chain hchain).imp And.right
  lasts _ hchain := (pairwise_of_chain (hchain.imp fun _ _ => Supersedes.isUpgrade)).imp And.right

/-- **The order of every profile that is accepted can be relied on**, whether upgrades are then
allowed or not. -/
theorem ranks_soundly {id : ProfileId} {name : String} {items : List ProfileItem}
    {cutoff : Quality} {accepted : Profile}
    (haccepted : ofItems id name items cutoff = .ok accepted) (upgradeAllowed : Bool) :
    RanksSoundly { accepted with upgradeAllowed } := by
  obtain ⟨rfl, hfaults⟩ := ofItems_eq_ok_iff.mp haccepted
  exact ranksSoundly_of_faults hfaults

/-- A profile that lists a tier which it does not want between others which it wants. -/
def tiered : Profile where
  id := 1
  name := "HD"
  items := [⟨.sdtv, true⟩, ⟨.hdtv720p, false⟩, ⟨.hdtv1080p, true⟩, ⟨.bluray1080p, true⟩]
  cutoff := .hdtv1080p
  upgradeAllowed := true

/-- The profile is accepted, and what climbs under it from a tier to a better one and on to a redone
release of that does not come back. -/
theorem tiered_ranks_soundly :
    ofItems 1 "HD" tiered.items .hdtv1080p = .ok tiered ∧
      RanksSoundly { tiered with upgradeAllowed := false } ∧
      [QualityModel.of .sdtv, .of .hdtv1080p, ⟨.hdtv1080p, ⟨2, 0⟩⟩].Pairwise fun earlier later =>
        later.same earlier = false := by
  have haccepted : ofItems 1 "HD" tiered.items .hdtv1080p = .ok tiered := rfl
  have hsoundly := ranks_soundly haccepted false
  exact ⟨haccepted, hsoundly, hsoundly.climbs _ (by decide)⟩

end Profile

end Acquisition
