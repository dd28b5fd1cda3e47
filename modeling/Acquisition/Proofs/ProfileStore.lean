import Acquisition.Proofs.Sorting
import Acquisition.ProfileStore
import Mathlib.Data.Finset.Card
import Mathlib.Data.Finset.Dedup
import Mathlib.Data.Finset.Lattice.Lemmas
import Mathlib.Data.List.Permutation

/-!
# Which delay profile applies

A media item gets the delay profile that shares most tags with it, of several such profiles the one
with the lowest order, and of several of one order the one that was configured first.  Where no
profile shares a tag, the first one without tags applies.  The store finds it by sorting once and
then keeping the best match so far: the sort is stable, and a match has to be better to take over.

## Main definitions

* `DelayProfile.shared`: the tags that a profile shares with a set of tags.
* `Assigns`: the delay profile that the configured ones give to a set of tags.
* `BestSoFar`: what is kept of the profiles that were looked at.

## Main results

* `ProfileStore.build_eq_ok_iff`: which profiles make a store, and what it holds.
* `BestSoFar.step`, `BestSoFar.run`: looking at one more profile, and at all of them.
* `ProfileStore.delayFor_assigns`: a store finds the profile that applies.
* `Assigns.eq_of_perm`: of two assignments from the same profiles in any order, both are one.
* `ProfileStore.delayFor_most_specific`: **the profile that applies is found, and as long as no two
  tagged profiles share an order and one profile is untagged, the order of configuration does not
  matter.**
-/

namespace Acquisition

/-! ### Shared tags -/

namespace Tags

theorem mem_insert {tag other : Nat} {tags : Tags} :
    other ∈ insert tag tags ↔ other = tag ∨ other ∈ tags := by
  induction tags with
  | nil => simp [insert]
  | cons first rest ih =>
    rw [insert]
    split
    · exact List.mem_cons
    · split
      · next htag =>
        obtain rfl : tag = first := beq_iff_eq.mp htag
        simp
      · rw [List.mem_cons, ih, List.mem_cons]
        tauto

/-- A tag is put in its place. -/
theorem pairwise_insert (tag : Nat) {tags : Tags} (h : tags.Pairwise (· < ·)) :
    (insert tag tags).Pairwise (· < ·) := by
  induction tags with
  | nil => exact List.pairwise_singleton _ _
  | cons first rest ih =>
    obtain ⟨hfirst, hrest⟩ := List.pairwise_cons.mp h
    rw [insert]
    split
    · next hlt =>
      refine List.pairwise_cons.mpr ⟨fun other hmem => ?_, h⟩
      rcases List.mem_cons.mp hmem with rfl | hmem
      · exact hlt
      · exact Nat.lt_trans hlt (hfirst other hmem)
    · next hnot =>
      split
      · exact h
      · next hne =>
        refine List.pairwise_cons.mpr ⟨fun other hmem => ?_, ih hrest⟩
        rcases mem_insert.mp hmem with rfl | hmem
        · have hdiffer : other ≠ first := fun heq => hne (beq_iff_eq.mpr heq)
          omega
        · exact hfirst other hmem

/-- **A set that is read from a list holds every tag once.** -/
theorem nodup_ofList (tags : List Nat) : (ofList tags).Nodup := by
  have hsorted : (ofList tags).Pairwise (· < ·) :=
    List.foldlRecOn (motive := fun set : Tags => set.Pairwise (· < ·)) tags
      (fun set tag => insert tag set) List.Pairwise.nil
      fun set hset tag _ => pairwise_insert tag hset
  exact hsorted.imp Nat.ne_of_lt

/-- The number of shared tags counts every tag once. -/
theorem overlap_eq_card {a : Tags} (ha : a.Nodup) (b : Tags) :
    overlap a b = (a.toFinset ∩ b.toFinset).card := by
  have hshared : a.toFinset ∩ b.toFinset = (a.filter (b.contains ·)).toFinset := by
    ext tag
    simp
  rw [hshared, List.toFinset_card_of_nodup (ha.filter _), overlap, List.countP_eq_length_filter]

end Tags

namespace DelayProfile

/-- The tags that the profile shares with a set of tags. -/
def shared (profile : DelayProfile) (tags : Tags) : Finset Nat :=
  profile.tags.toFinset ∩ tags.toFinset

theorem isGlobal_iff {profile : DelayProfile} : profile.isGlobal = true ↔ profile.tags = [] := by
  rw [isGlobal, List.isEmpty_iff]

theorem overlap_of_isGlobal {profile : DelayProfile} (h : profile.isGlobal = true) (tags : Tags) :
    profile.tags.overlap tags = 0 := by
  rw [isGlobal_iff.mp h]
  rfl

end DelayProfile

/-- The delay profile that the configured ones give to a set of tags. -/
inductive Assigns (delays : List DelayProfile) (tags : Tags) (chosen : DelayProfile) : Prop
  /-- No profile shares a tag, and the chosen one is the first that has none. -/
  | untagged {front back : List DelayProfile} (hsplit : delays = front ++ chosen :: back)
    (hnone : ∀ profile ∈ delays, profile.shared tags = ∅) (huntagged : chosen.tags = [])
    (hfirst : ∀ profile ∈ front, profile.tags ≠ [])
  /-- No profile shares more tags than the chosen one, none that shares as many is of a lower order,
  and none of these that is of its order was configured before it. -/
  | tagged {front back : List DelayProfile} (hsplit : delays = front ++ chosen :: back)
    (hshares : (chosen.shared tags).Nonempty)
    (hmost : ∀ profile ∈ delays, (profile.shared tags).card ≤ (chosen.shared tags).card)
    (hlowest : ∀ profile ∈ delays, (profile.shared tags).card = (chosen.shared tags).card →
      chosen.order ≤ profile.order)
    (hfirst : ∀ profile ∈ front, (profile.shared tags).card = (chosen.shared tags).card →
      profile.order ≠ chosen.order)

/-! ### The best match -/

/-- What is kept of the profiles that were looked at, one after the other: nothing as long as none
shares a tag, and else the first of those that share most. -/
inductive BestSoFar (tags : Tags) (seen : List DelayProfile) : Option DelayProfile → Prop
  | none (hnone : ∀ profile ∈ seen, profile.tags.overlap tags = 0) : BestSoFar tags seen none
  | some {front back : List DelayProfile} {best : DelayProfile}
    (hsplit : seen = front ++ best :: back) (hshares : 0 < best.tags.overlap tags)
    (hfront : ∀ profile ∈ front, profile.tags.overlap tags < best.tags.overlap tags)
    (hback : ∀ profile ∈ back, profile.tags.overlap tags ≤ best.tags.overlap tags) :
    BestSoFar tags seen (some best)

namespace ProfileStore

variable {tags : Tags} {best profile : DelayProfile}

/-- A profile that shares no tag is passed over. -/
theorem betterMatch_of_not_shared (hzero : profile.tags.overlap tags = 0)
    (best? : Option DelayProfile) : betterMatch tags best? profile = best? := by
  simp [betterMatch, hzero]

/-- The first profile that shares a tag is kept. -/
theorem betterMatch_none (hshares : 0 < profile.tags.overlap tags) :
    betterMatch tags none profile = some profile := by
  simp [betterMatch, Nat.ne_of_gt hshares]

theorem betterMatch_of_lt (hmore : best.tags.overlap tags < profile.tags.overlap tags) :
    betterMatch tags (some best) profile = some profile := by
  simp [betterMatch, hmore, Nat.ne_of_gt (Nat.zero_lt_of_lt hmore)]

/-- A profile that shares just as many tags does not take over. -/
theorem betterMatch_of_le (hle : profile.tags.overlap tags ≤ best.tags.overlap tags) :
    betterMatch tags (some best) profile = some best := by
  simp [betterMatch, Nat.not_lt.mpr hle]

end ProfileStore

namespace BestSoFar

variable {tags : Tags} {seen : List DelayProfile} {best? : Option DelayProfile}

/-- **One more profile** takes over only if it shares more than the best one so far. -/
theorem step (h : BestSoFar tags seen best?) (profile : DelayProfile) :
    BestSoFar tags (seen ++ [profile]) (ProfileStore.betterMatch tags best? profile) := by
  cases h with
  | none hnone =>
    by_cases hzero : profile.tags.overlap tags = 0
    · rw [ProfileStore.betterMatch_of_not_shared hzero]
      refine .none fun other hmem => ?_
      rcases List.mem_append.mp hmem with hmem | hmem
      · exact hnone other hmem
      · rw [List.mem_singleton.mp hmem, hzero]
    · have hpos : 0 < profile.tags.overlap tags := Nat.pos_of_ne_zero hzero
      rw [ProfileStore.betterMatch_none hpos]
      refine .some rfl hpos (fun other hmem => ?_) (List.forall_mem_nil _)
      rw [hnone other hmem]
      exact hpos
  | @some front back best hsplit hshares hfront hback =>
    by_cases hmore : best.tags.overlap tags < profile.tags.overlap tags
    · rw [ProfileStore.betterMatch_of_lt hmore]
      refine .some rfl (Nat.lt_trans hshares hmore) (fun other hmem => ?_) (List.forall_mem_nil _)
      rw [hsplit, List.mem_append, List.mem_cons] at hmem
      rcases hmem with hmem | rfl | hmem
      · exact Nat.lt_trans (hfront other hmem) hmore
      · exact hmore
      · exact Nat.lt_of_le_of_lt (hback other hmem) hmore
    · have hle : profile.tags.overlap tags ≤ best.tags.overlap tags := Nat.not_lt.mp hmore
      have hlonger : seen ++ [profile] = front ++ best :: (back ++ [profile]) := by simp [hsplit]
      rw [ProfileStore.betterMatch_of_le hle]
      refine .some hlonger hshares hfront fun other hmem => ?_
      rcases List.mem_append.mp hmem with hmem | hmem
      · exact hback other hmem
      · rwa [List.mem_singleton.mp hmem]

/-- **All profiles**: the induction is on those that are still to be looked at. -/
theorem run (h : BestSoFar tags seen best?) (profiles : List DelayProfile) :
    BestSoFar tags (seen ++ profiles)
      (profiles.foldl (ProfileStore.betterMatch tags) best?) := by
  induction profiles generalizing seen best? with
  | nil => rwa [List.append_nil]
  | cons profile profiles ih =>
    have hrest := ih (h.step profile)
    rwa [List.append_assoc, List.singleton_append] at hrest

end BestSoFar

/-! ### Stores -/

/-- A place among the elements that are kept is a place among all of them. -/
theorem exists_split_of_filter {α : Type} {keep : α → Bool} {l front back : List α} {a : α}
    (h : l.filter keep = front ++ a :: back) :
    ∃ before after, l = before ++ a :: after ∧ before.filter keep = front ∧
      after.filter keep = back := by
  obtain ⟨ahead, rest, rfl, hahead, hrest⟩ := List.filter_eq_append_iff.mp h
  obtain ⟨between, after, rfl, hbetween, -, hafter⟩ := List.filter_eq_cons_iff.mp hrest
  refine ⟨ahead ++ between, after, by simp, ?_, hafter⟩
  rw [List.filter_append, hahead, List.filter_eq_nil_iff.mpr hbetween, List.append_nil]

namespace ProfileStore

variable {profiles : List Profile} {delays : List DelayProfile} {store : ProfileStore}

/-- The profiles that have tags, by their order. -/
def inOrder (delays : List DelayProfile) : List DelayProfile :=
  (delays.filter (!·.isGlobal)).mergeSort fun a b => decide (a.order ≤ b.order)

/-- Profiles are checked one after the other until one is not in order. -/
theorem forM_check_eq_ok_iff :
    delays.forM DelayProfile.check = .ok () ↔ ∀ delay ∈ delays, delay.check = .ok () := by
  induction delays with
  | nil => exact iff_of_true rfl (List.forall_mem_nil _)
  | cons delay delays ih =>
    have hcons : (delay :: delays).forM DelayProfile.check =
        delay.check >>= fun _ => delays.forM DelayProfile.check := rfl
    rw [List.forall_mem_cons, ← ih, hcons]
    cases delay.check with
    | error fault => exact iff_of_false nofun fun h => absurd h.1 nofun
    | ok _ => exact (and_iff_right rfl).symm

/-- **A store is made of profiles exactly if** there is a quality profile to fall back on, every
delay profile is in order, and one of them has no tags. -/
theorem build_eq_ok_iff : build profiles delays = .ok store ↔
    ∃ fallback untagged, (byNumber profiles).head? = some fallback ∧
      (∀ delay ∈ delays, delay.check = .ok ()) ∧ delays.find? (·.isGlobal) = some untagged ∧
        store = ⟨byNumber profiles, fallback, inOrder delays, untagged⟩ := by
  rw [← forM_check_eq_ok_iff, build]
  cases (byNumber profiles).head? with
  | none => simp [throw, throwThe, MonadExceptOf.throw]
  | some fallback =>
    cases delays.forM DelayProfile.check with
    | error fault => simp [bind, Except.bind]
    | ok _ =>
      cases delays.find? (·.isGlobal) with
      | none => simp [bind, Except.bind, throw, throwThe, MonadExceptOf.throw]
      | some untagged => simp [bind, Except.bind, pure, Except.pure, inOrder, eq_comm]

theorem mem_inOrder_iff {profile : DelayProfile} :
    profile ∈ inOrder delays ↔ profile ∈ delays ∧ profile.isGlobal = false := by
  rw [inOrder, List.mem_mergeSort, List.mem_filter, Bool.not_eq_true']

/-- **The best match is the first of its kind.**  The profiles are sorted by their order, so of those
that share as many tags the best match is of the lowest order; and the sort is stable, so of those
that are also of its order it was configured first. -/
theorem exists_split_of_best {tags : Tags} {best : DelayProfile}
    (h : BestSoFar tags (inOrder delays) (some best)) :
    ∃ front back, delays = front ++ best :: back ∧ 0 < best.tags.overlap tags ∧
      (∀ profile ∈ delays, profile.tags.overlap tags ≤ best.tags.overlap tags) ∧
      (∀ profile ∈ delays, profile.tags.overlap tags = best.tags.overlap tags →
        best.order ≤ profile.order) ∧
      ∀ profile ∈ front, profile.tags.overlap tags = best.tags.overlap tags →
        profile.order ≠ best.order := by
  cases h with
  | @some less most _ hsplit hshares hless hmost =>
    -- what shares as many tags as the best match has tags, and so was sorted
    have htagged : ∀ {profile : DelayProfile},
        profile.tags.overlap tags = best.tags.overlap tags → profile.isGlobal = false := by
      intro profile hsame
      by_contra hglobal
      rw [Bool.not_eq_false] at hglobal
      have hzero := DelayProfile.overlap_of_isGlobal hglobal tags
      omega
    have hfind : (inOrder delays).find?
        (fun profile => profile.tags.overlap tags == best.tags.overlap tags) = some best := by
      rw [List.find?_eq_some_iff_append]
      refine ⟨beq_self_eq_true _, less, most, hsplit, fun profile hmem => ?_⟩
      have hlt := hless profile hmem
      simp [Nat.ne_of_lt hlt]
    obtain ⟨ahead, behind, hfilter, hahead, hbehind⟩ :=
      find?_mergeSort_some (by simp only [decide_eq_true_eq]; omega)
        (by simp only [Bool.or_eq_true, decide_eq_true_eq]; omega) hfind
    simp only [beq_iff_eq, decide_eq_false_iff_not, decide_eq_true_eq] at hahead hbehind
    obtain ⟨front, back, hdelays, hfront, hback⟩ := exists_split_of_filter hfilter
    refine ⟨front, back, hdelays, hshares, fun profile hmem => ?_, fun profile hmem hsame => ?_,
      fun profile hmem hsame => ?_⟩
    · by_cases hglobal : profile.isGlobal = true
      · rw [DelayProfile.overlap_of_isGlobal hglobal]
        exact Nat.zero_le _
      · have hsorted : profile ∈ inOrder delays :=
          mem_inOrder_iff.mpr ⟨hmem, Bool.not_eq_true _ ▸ hglobal⟩
        rw [hsplit, List.mem_append, List.mem_cons] at hsorted
        rcases hsorted with hmem | rfl | hmem
        · exact Nat.le_of_lt (hless profile hmem)
        · exact Nat.le_refl _
        · exact hmost profile hmem
    · have hkept : profile ∈ delays.filter (!·.isGlobal) := by simp [hmem, htagged hsame]
      rw [hfilter, List.mem_append, List.mem_cons] at hkept
      rcases hkept with hmem | rfl | hmem
      · exact Nat.le_of_not_le (hahead profile hmem hsame)
      · exact Nat.le_refl _
      · exact hbehind profile hmem hsame
    · have hkept : profile ∈ ahead := by simp [← hfront, hmem, htagged hsame]
      have hnot := hahead profile hkept hsame
      omega

/-- **A store finds the delay profile that applies.** -/
theorem delayFor_assigns (hbuild : build profiles delays = .ok store)
    (htags : ∀ profile ∈ delays, profile.tags.Nodup) (tags : Tags) :
    Assigns delays tags (store.delayFor tags) := by
  obtain ⟨fallback, untagged, -, -, huntagged, rfl⟩ := build_eq_ok_iff.mp hbuild
  have hcard : ∀ profile ∈ delays, (profile.shared tags).card = profile.tags.overlap tags :=
    fun profile hmem => (Tags.overlap_eq_card (htags profile hmem) tags).symm
  have hbest : BestSoFar tags (inOrder delays) ((inOrder delays).foldl (betterMatch tags) none) :=
    BestSoFar.run (.none (List.forall_mem_nil _)) (inOrder delays)
  rw [delayFor]
  cases hfold : (inOrder delays).foldl (betterMatch tags) none with
  | none =>
    rw [hfold] at hbest
    rw [Option.getD_none]
    obtain ⟨hglobal, front, back, hsplit, hfront⟩ := List.find?_eq_some_iff_append.mp huntagged
    cases hbest with
    | none hnone =>
      refine .untagged hsplit (fun profile hmem => ?_) (DelayProfile.isGlobal_iff.mp hglobal)
        fun profile hmem => ?_
      · rw [← Finset.card_eq_zero, hcard profile hmem]
        by_cases hprofile : profile.isGlobal = true
        · exact DelayProfile.overlap_of_isGlobal hprofile tags
        · exact hnone profile (mem_inOrder_iff.mpr ⟨hmem, Bool.not_eq_true _ ▸ hprofile⟩)
      · have hnot := hfront profile hmem
        rwa [Bool.not_eq_true', ← Bool.not_eq_true, DelayProfile.isGlobal_iff] at hnot
  | some best =>
    rw [hfold] at hbest
    rw [Option.getD_some]
    obtain ⟨front, back, hsplit, hshares, hmost, hlowest, hfirst⟩ := exists_split_of_best hbest
    have hmem : best ∈ delays := by simp [hsplit]
    have hfrontMem : ∀ profile ∈ front, profile ∈ delays :=
      fun profile hin => hsplit ▸ List.mem_append_left _ hin
    refine .tagged hsplit ?_ (fun profile hin => ?_) (fun profile hin hsame => ?_)
      fun profile hin hsame => ?_
    · rwa [← Finset.card_pos, hcard best hmem]
    · rw [hcard profile hin, hcard best hmem]
      exact hmost profile hin
    · rw [hcard profile hin, hcard best hmem] at hsame
      exact hlowest profile hin hsame
    · rw [hcard profile (hfrontMem profile hin), hcard best hmem] at hsame
      exact hfirst profile hin hsame

end ProfileStore

/-! ### The order of configuration -/

namespace Assigns

variable {delays reordered : List DelayProfile} {tags : Tags} {chosen other : DelayProfile}

theorem mem (h : Assigns delays tags chosen) : chosen ∈ delays := by
  cases h with
  | untagged hsplit | tagged hsplit => simp [hsplit]

/-- **Where no two tagged profiles share an order and one profile is untagged, the order of
configuration does not matter.** -/
theorem eq_of_perm (hperm : reordered.Perm delays)
    (horders : ((delays.filter (!·.isGlobal)).map (·.order)).Nodup)
    (hone : (delays.filter (·.isGlobal)).length = 1)
    (h : Assigns delays tags chosen) (h' : Assigns reordered tags other) : other = chosen := by
  have hmem := h.mem
  have hmem' : other ∈ delays := hperm.mem_iff.mp h'.mem
  cases h with
  | untagged _ hnone huntagged _ =>
    cases h' with
    | untagged _ _ huntagged' _ =>
      obtain ⟨only, honly⟩ := List.length_eq_one_iff.mp hone
      have hin : ∀ profile ∈ delays, profile.tags = [] → profile = only := by
        intro profile hin hprofile
        have hkept : profile ∈ delays.filter (·.isGlobal) :=
          List.mem_filter.mpr ⟨hin, DelayProfile.isGlobal_iff.mpr hprofile⟩
        rw [honly] at hkept
        exact List.mem_singleton.mp hkept
      rw [hin chosen hmem huntagged, hin other hmem' huntagged']
    | tagged _ hshares' _ _ _ =>
      rw [hnone other hmem'] at hshares'
      exact absurd hshares' Finset.not_nonempty_empty
  | tagged _ hshares hmost hlowest _ =>
    cases h' with
    | untagged _ hnone' _ _ =>
      rw [hnone' chosen (hperm.mem_iff.mpr hmem)] at hshares
      exact absurd hshares Finset.not_nonempty_empty
    | tagged _ hshares' hmost' hlowest' _ =>
      -- each shares as many tags as the other, so each is of the lowest order
      have hsame : (other.shared tags).card = (chosen.shared tags).card :=
        Nat.le_antisymm (hmost other hmem') (hmost' chosen (hperm.mem_iff.mpr hmem))
      have horder : other.order = chosen.order :=
        Nat.le_antisymm (hlowest' chosen (hperm.mem_iff.mpr hmem) hsame.symm)
          (hlowest other hmem' hsame)
      have hin : ∀ profile ∈ delays, (profile.shared tags).Nonempty →
          profile ∈ delays.filter (!·.isGlobal) := by
        intro profile hin hprofile
        refine List.mem_filter.mpr ⟨hin, ?_⟩
        rw [Bool.not_eq_true', ← Bool.not_eq_true, DelayProfile.isGlobal_iff]
        intro hnil
        simp [DelayProfile.shared, hnil] at hprofile
      exact List.inj_on_of_nodup_map horders (hin other hmem' hshares') (hin chosen hmem hshares)
        horder

end Assigns

namespace ProfileStore

variable {profiles : List Profile} {delays : List DelayProfile} {store : ProfileStore}

/-- Whether profiles make a store does not depend on the order of the delay profiles. -/
theorem exists_build_of_perm (hbuild : build profiles delays = .ok store)
    {reordered : List DelayProfile} (hperm : reordered.Perm delays) :
    ∃ other, build profiles reordered = .ok other := by
  obtain ⟨fallback, untagged, hfallback, hcheck, huntagged, -⟩ := build_eq_ok_iff.mp hbuild
  have hsome : (reordered.find? (·.isGlobal)).isSome = true := by
    rw [List.find?_isSome]
    exact ⟨untagged, hperm.mem_iff.mpr (List.mem_of_find?_eq_some huntagged),
      List.find?_some huntagged⟩
  obtain ⟨first, hfirst⟩ := Option.isSome_iff_exists.mp hsome
  exact ⟨_, build_eq_ok_iff.mpr ⟨fallback, first, hfallback,
    fun delay hmem => hcheck delay (hperm.mem_iff.mp hmem), hfirst, rfl⟩⟩

/-- **A store finds the delay profile that applies to a set of tags**, and it finds the same one in
whatever order the delay profiles are configured, as long as no two tagged ones share an order and
one is untagged. -/
theorem delayFor_most_specific (hbuild : build profiles delays = .ok store)
    (htags : ∀ profile ∈ delays, profile.tags.Nodup) :
    (∀ tags, Assigns delays tags (store.delayFor tags)) ∧
      (((delays.filter (!·.isGlobal)).map (·.order)).Nodup →
        (delays.filter (·.isGlobal)).length = 1 →
          ∀ reordered, reordered.Perm delays → ∃ other, build profiles reordered = .ok other ∧
            ∀ tags, other.delayFor tags = store.delayFor tags) := by
  refine ⟨delayFor_assigns hbuild htags, fun horders hone reordered hperm => ?_⟩
  obtain ⟨other, hother⟩ := exists_build_of_perm hbuild hperm
  refine ⟨other, hother, fun tags => ?_⟩
  have htags' : ∀ profile ∈ reordered, profile.tags.Nodup :=
    fun profile hmem => htags profile (hperm.mem_iff.mp hmem)
  exact (delayFor_assigns hbuild htags tags).eq_of_perm hperm horders hone
    (delayFor_assigns hother htags' tags)

/-- A profile without tags and three that share the tag 2. -/
def layered : List DelayProfile :=
  [⟨1, 7, .usenet, 30, 30, .ofList [2, 1]⟩, ⟨2, DelayProfile.lastOrder, .usenet, 0, 0, []⟩,
    ⟨3, 5, .torrent, 60, 60, .ofList [3, 2]⟩, ⟨4, 2, .torrent, 90, 90, .ofList [2]⟩]

/-- The store of the three by order. -/
def layeredStore : ProfileStore where
  profiles := [default]
  fallback := default
  tagged := [⟨4, 2, .torrent, 90, 90, [2]⟩, ⟨3, 5, .torrent, 60, 60, [2, 3]⟩,
    ⟨1, 7, .usenet, 30, 30, [1, 2]⟩]
  untagged := ⟨2, DelayProfile.lastOrder, .usenet, 0, 0, []⟩

/-- Where all three share one tag the lowest order decides, and one that shares two comes before it;
so it is when the profiles are configured the other way round. -/
theorem layered_most_specific :
    build [default] layered = .ok layeredStore ∧
      (Assigns layered [2] (layeredStore.delayFor [2]) ∧ (layeredStore.delayFor [2]).id = 4) ∧
      ∃ other, build [default] layered.reverse = .ok other ∧ (other.delayFor [2, 3]).id = 3 := by
  have hbuild : build [default] layered = .ok layeredStore := by cbv
  have htags : ∀ profile ∈ layered, profile.tags.Nodup := by
    simp [layered, Tags.nodup_ofList]
  obtain ⟨hassigns, hsettled⟩ := delayFor_most_specific hbuild htags
  obtain ⟨other, hother, hsame⟩ :=
    hsettled (by decide) (by decide) layered.reverse (List.reverse_perm layered)
  refine ⟨hbuild, ⟨hassigns [2], by decide⟩, other, hother, ?_⟩
  rw [hsame]
  decide

end ProfileStore

end Acquisition
