import Acquisition.Proofs.Grab.Ranking
import Acquisition.Proofs.Profile
import Acquisition.Proofs.Sorting

/-!
# Which release is preferred

Two releases for one media item are compared by quality, then by protocol, then by what their
protocol tells about how well they can be fetched, then by size.  What a protocol tells is compared
only between releases of one protocol: the protocol itself has decided before, or they are of one.
So the comparison is lexicographic in numbers, and a total preorder on the candidates of a media
item, which share a profile and tags.

Decisions are sorted by it within each media item.  They are told apart by their places in the list
that comes in, since decisions may be equal.

## Main definitions

* `GrabCandidate.cmpUnder`: the comparison by numbers, under one profile and preferred protocol.
* `ShareMedia`: candidates for one media item have one profile and the same tags.
* `Precedes`: which of two decisions at their places is acted on first.
* `SortsStably`: what is asked of the comparison and of the order of decisions.

## Main results

* `sizeBucket?_eq_some`: sizes far enough from the largest number are rounded without overflow.
* `GrabCandidate.cmp?_eq_some_cmp`: the program compares by the exact sizes, where it does not break
  off.
* `GrabCandidate.cmp_eq_cmpUnder`: the comparison of candidates is the one by numbers.
* `pairwise_eraseDups_idxOf`: keys without repeats stand in the order of their first appearance.
* `placedGroup_pairwise`: within a media item the preferred candidate comes first.
* `placedOrder_pairwise`: the decisions are acted on in order.
* `prioritize_sortsStably`: **decisions are sorted stably, in groups.**
-/

namespace Acquisition

/-! ### Sizes -/

theorem roundingSum_eq (size : UInt64) : roundingSum size = size.toNat + 100 * 1024 * 1024 := by
  have hhalf : (sizeStep / 2).toNat = 100 * 1024 * 1024 := by decide
  rw [roundingSum, hhalf]

theorem sizeBucket_eq (size : UInt64) :
    sizeBucket size = (size.toNat + 100 * 1024 * 1024) / (200 * 1024 * 1024) := by
  have hstep : sizeStep.toNat = 200 * 1024 * 1024 := by decide
  rw [sizeBucket, roundingSum_eq, hstep]

/-- **Sizes are rounded to the nearest step**, as long as half a step more is not too large a
number. -/
theorem sizeBucket?_eq_some {size : UInt64} (h : size.toNat + 100 * 1024 * 1024 < UInt64.size) :
    sizeBucket? size = some ((size.toNat + 100 * 1024 * 1024) / (200 * 1024 * 1024)) := by
  rw [sizeBucket?, roundingSum_eq, if_pos h, sizeBucket_eq]

/-- A size within half a step of the largest number is not rounded. -/
theorem sizeBucket?_eq_none_iff {size : UInt64} :
    sizeBucket? size = none ↔ UInt64.size ≤ size.toNat + 100 * 1024 * 1024 := by
  rw [sizeBucket?, roundingSum_eq]
  split <;> simp <;> omega

/-! ### The comparison by numbers -/

/-- What comes behind counts only where what comes before is equal. -/
theorem then_congr {first a b : Ordering} (h : first = .eq → a = b) :
    first.then a = first.then b := by
  cases first with
  | eq => exact h rfl
  | lt => rfl
  | gt => rfl

namespace GrabCandidate

/-- What a protocol tells first: of a torrent how many have all of it, of a usenet release how new
it is. -/
def availability (now : Instant) (release : Release) : Nat :=
  match release.protocol with
  | .torrent => roundedLogTen release.seeders
  | .usenet => usenetAgeScore (release.age now)

/-- What a protocol tells next: of a torrent how many have some of it, of a usenet release
nothing. -/
def furtherAvailability (release : Release) : Nat :=
  match release.protocol with
  | .torrent => roundedLogTen release.peers
  | .usenet => 0

/-- Between releases of one protocol, what it tells is compared as numbers. -/
theorem cmpAvailability_of_eq {left right : Release} (h : left.protocol = right.protocol)
    (now : Instant) : cmpAvailability now left right =
      (compare (availability now left) (availability now right)).then
        (compare (furtherAvailability left) (furtherAvailability right)) := by
  rw [cmpAvailability, availability, availability, furtherAvailability, furtherAvailability, ← h]
  cases left.protocol with
  | torrent => rfl
  | usenet => simp

/-- There are two protocols, so the preferred one tells them apart. -/
theorem protocol_eq_of_protocolScore_eq {preferred : Protocol} {a b : GrabCandidate}
    (h : a.protocolScore preferred = b.protocolScore preferred) :
    a.release.protocol = b.release.protocol := by
  rw [protocolScore, protocolScore] at h
  cases ha : a.release.protocol <;> cases hb : b.release.protocol <;> cases preferred <;>
    simp_all

/-- The order of candidates by quality, all of them under one profile. -/
def cmpQuality (profile : Profile) (a b : GrabCandidate) : Ordering :=
  profile.cmp a.quality b.quality

instance (profile : Profile) : Std.TransCmp (cmpQuality profile) where
  eq_swap {a b} := (Std.OrientedCmp.eq_swap :
    profile.cmp a.quality b.quality = (profile.cmp b.quality a.quality).swap)
  isLE_trans {a b c} := (Std.TransCmp.isLE_trans : (profile.cmp a.quality b.quality).isLE = true →
    (profile.cmp b.quality c.quality).isLE = true → (profile.cmp a.quality c.quality).isLE = true)

/-- The size of a candidate in steps. -/
def sizeSteps (candidate : GrabCandidate) : Nat :=
  sizeBucket candidate.release.size

/-- The order of candidates by numbers, all of them under one profile and preferred protocol. -/
def cmpUnder (profile : Profile) (preferred : Protocol) (now : Instant) :
    GrabCandidate → GrabCandidate → Ordering :=
  compareLex (cmpQuality profile) <|
    compareLex (compareOn (protocolScore preferred)) <|
      compareLex (compareOn fun candidate => availability now candidate.release) <|
        compareLex (compareOn fun candidate => furtherAvailability candidate.release)
          (compareOn sizeSteps)

/-- Numbers are compared one after the other. -/
instance (profile : Profile) (preferred : Protocol) (now : Instant) :
    Std.TransCmp (cmpUnder profile preferred now) := by
  unfold cmpUnder
  infer_instance

theorem cmpUnder_eq (profile : Profile) (preferred : Protocol) (now : Instant)
    (a b : GrabCandidate) : cmpUnder profile preferred now a b =
      (profile.cmp a.quality b.quality).then
        ((compare (a.protocolScore preferred) (b.protocolScore preferred)).then
          ((compare (availability now a.release) (availability now b.release)).then
            ((compare (furtherAvailability a.release) (furtherAvailability b.release)).then
              (compare a.sizeSteps b.sizeSteps)))) := by
  -- rewritten and not unfolded, so that no size is computed
  rw [cmpUnder, compareLex, compareLex, compareLex, compareLex, cmpQuality, compareOn, compareOn,
    compareOn, compareOn]

/-- **The order of candidates is the order by numbers.**  Where the protocols differ, the protocol
has decided and what comes behind does not count. -/
theorem cmp_eq_cmpUnder {store : ProfileStore} {profile : Profile} {preferred : Protocol}
    {a : GrabCandidate} (hprofile : a.profile = profile)
    (hpreferred : (store.delayFor a.media.tags).preferred = preferred) (now : Instant)
    (b : GrabCandidate) : cmp store now a b = cmpUnder profile preferred now a b := by
  rw [cmp, cmpUpToSize, cmpUnder_eq, hprofile, hpreferred, sizeSteps, sizeSteps,
    Ordering.then_assoc, Ordering.then_assoc]
  refine then_congr fun _ => then_congr fun hscore => ?_
  have hprotocol := protocol_eq_of_protocolScore_eq (Nat.compare_eq_eq.mp hscore)
  rw [cmpAvailability_of_eq hprotocol, Ordering.then_assoc]

end GrabCandidate

/-! ### What the program compares -/

namespace GrabCandidate

variable {store : ProfileStore} {now : Instant} {a b : GrabCandidate}

/-- **When a comparison breaks off**: two candidates are equal up to their sizes, and one of these is
not rounded. -/
theorem cmp?_eq_none_iff : cmp? store now a b = none ↔
    cmpUpToSize store now a b = .eq ∧
      (sizeBucket? a.release.size = none ∨ sizeBucket? b.release.size = none) := by
  rw [cmp?]
  cases cmpUpToSize store now a b with
  | eq => cases sizeBucket? a.release.size <;> cases sizeBucket? b.release.size <;> simp
  | lt => simp
  | gt => simp

/-- A size is rounded to its steps, if it is. -/
theorem eq_sizeBucket_of_eq_some {size : UInt64} {steps : Nat} (h : sizeBucket? size = some steps) :
    steps = sizeBucket size := by
  rw [sizeBucket?] at h
  split at h
  · exact (Option.some.inj h).symm
  · exact absurd h nofun

/-- **What the program answers is the order by the exact sizes**, wherever it answers. -/
theorem cmp?_eq_some_cmp (h : cmp? store now a b ≠ none) :
    cmp? store now a b = some (cmp store now a b) := by
  rw [Ne, cmp?_eq_none_iff] at h
  rw [cmp?, cmp]
  cases hcoarse : cmpUpToSize store now a b with
  | lt => rfl
  | gt => rfl
  | eq =>
    cases ha : sizeBucket? a.release.size with
    | none => exact absurd ⟨hcoarse, Or.inl ha⟩ h
    | some first =>
      cases hb : sizeBucket? b.release.size with
      | none => exact absurd ⟨hcoarse, Or.inr hb⟩ h
      | some second =>
        -- rewritten and not unfolded, so that no size is computed
        rw [eq_sizeBucket_of_eq_some ha, eq_sizeBucket_of_eq_some hb, Ordering.eq_then]
        simp only [Option.bind_eq_bind, Option.bind_some, Option.pure_def]

/-- Candidates whose sizes are rounded are compared. -/
theorem cmp?_eq_some_of_rounded (ha : a.release.size.toNat + 100 * 1024 * 1024 < UInt64.size)
    (hb : b.release.size.toNat + 100 * 1024 * 1024 < UInt64.size) :
    cmp? store now a b = some (cmp store now a b) := by
  refine cmp?_eq_some_cmp fun hnone => ?_
  rcases (cmp?_eq_none_iff.mp hnone).2 with h | h
  · exact absurd (sizeBucket?_eq_none_iff.mp h) (by omega)
  · exact absurd (sizeBucket?_eq_none_iff.mp h) (by omega)

end GrabCandidate

/-! ### First appearances -/

/-- Of two elements that are kept, the one that appears first among those that are kept appears
first among all. -/
theorem idxOf_lt_of_filter {κ : Type} [BEq κ] [LawfulBEq κ] {keep : κ → Bool} {a b : κ}
    (ha : keep a = true) (hb : keep b = true) : ∀ {l : List κ},
      (l.filter keep).idxOf a < (l.filter keep).idxOf b → l.idxOf a < l.idxOf b := by
  intro l
  induction l with
  | nil => exact id
  | cons c l ih =>
    intro hlt
    by_cases hca : c = a
    · subst hca
      have hne : c ≠ b := by
        rintro rfl
        exact Nat.lt_irrefl _ hlt
      rw [List.idxOf_cons_self, List.idxOf_cons_ne l hne]
      exact Nat.succ_pos _
    · by_cases hcb : c = b
      · subst hcb
        rw [List.filter_cons_of_pos hb, List.idxOf_cons_self] at hlt
        exact absurd hlt (Nat.not_lt_zero _)
      · rw [List.idxOf_cons_ne l hca, List.idxOf_cons_ne l hcb]
        refine Nat.succ_lt_succ (ih ?_)
        by_cases hkeep : keep c = true
        · rw [List.filter_cons_of_pos hkeep, List.idxOf_cons_ne _ hca,
            List.idxOf_cons_ne _ hcb] at hlt
          exact Nat.lt_of_succ_lt_succ hlt
        · rwa [List.filter_cons_of_neg hkeep] at hlt

/-- **Keys without repeats stand in the order of their first appearance.** -/
theorem pairwise_eraseDups_idxOf {κ : Type} [BEq κ] [LawfulBEq κ] : ∀ keys : List κ,
    keys.eraseDups.Pairwise fun a b => keys.idxOf a < keys.idxOf b
  | [] => List.Pairwise.nil
  | k :: keys => by
    have hrest := pairwise_eraseDups_idxOf (keys.filter fun b => !b == k)
    rw [List.eraseDups_cons, List.pairwise_cons]
    have hother : ∀ {b}, b ∈ (keys.filter fun b => !b == k).eraseDups → (!b == k) = true :=
      fun hmem => (List.mem_filter.mp (List.mem_eraseDups.mp hmem)).2
    have hne : ∀ {b}, b ∈ (keys.filter fun b => !b == k).eraseDups → k ≠ b := by
      rintro b hmem rfl
      simpa using hother hmem
    -- the first key stands first, and the others are in order without it
    refine ⟨fun b hmem => ?_, hrest.imp_of_mem fun {a b} ha hb hlt => ?_⟩
    · rw [List.idxOf_cons_self, List.idxOf_cons_ne _ (hne hmem)]
      exact Nat.succ_pos _
    · rw [List.idxOf_cons_ne _ (hne ha), List.idxOf_cons_ne _ (hne hb)]
      have hfirst := @idxOf_lt_of_filter κ _ _ (fun b => !b == k) a b (hother ha) (hother hb)
      exact Nat.succ_lt_succ (hfirst hlt)
  termination_by keys => keys.length
  decreasing_by exact Nat.lt_succ_of_le (List.length_filter_le _ _)

/-! ### Stable sorting, in groups -/

/-- Candidates for one media item share a profile and tags. -/
def ShareMedia (decisions : List GrabDecision) : Prop :=
  ∀ a ∈ decisions, ∀ b ∈ decisions, a.candidate.media.id = b.candidate.media.id →
    a.candidate.profile = b.candidate.profile ∧ a.candidate.media.tags = b.candidate.media.tags

/-- Where a media item first appears among the accepted decisions. -/
def firstAppearance (decisions : List GrabDecision) (mediaId : MediaId) : Nat :=
  ((decisions.filter (·.decision.isAccepted)).map (·.candidate.media.id)).idxOf mediaId

/-- Which of two decisions, each with its place in the list that came in, is acted on first. -/
inductive Precedes (store : ProfileStore) (now : Instant) (decisions : List GrabDecision)
    (a b : GrabDecision × Nat) : Prop
  /-- Accepted decisions come before rejected ones. -/
  | accepted (ha : a.1.decision.isAccepted = true) (hb : b.1.decision.isAccepted = false)
  /-- Rejected decisions stay as they came. -/
  | rejected (ha : a.1.decision.isAccepted = false) (hb : b.1.decision.isAccepted = false)
      (hplace : a.2 < b.2)
  /-- Media items follow one another as they first appeared. -/
  | appeared (ha : a.1.decision.isAccepted = true) (hb : b.1.decision.isAccepted = true)
      (hfirst : firstAppearance decisions a.1.candidate.media.id <
        firstAppearance decisions b.1.candidate.media.id)
  /-- For a media item the preferred candidate comes first. -/
  | preferred (ha : a.1.decision.isAccepted = true) (hb : b.1.decision.isAccepted = true)
      (hmedia : a.1.candidate.media.id = b.1.candidate.media.id)
      (hcmp : GrabCandidate.cmp store now a.1.candidate b.1.candidate = .gt)
  /-- Candidates that are equally good stay as they came. -/
  | equal (ha : a.1.decision.isAccepted = true) (hb : b.1.decision.isAccepted = true)
      (hmedia : a.1.candidate.media.id = b.1.candidate.media.id)
      (hcmp : GrabCandidate.cmp store now a.1.candidate b.1.candidate = .eq)
      (hplace : a.2 < b.2)

/-- The accepted decisions about one media item, with their places. -/
def placedFor (decisions : List GrabDecision) (mediaId : MediaId) : List (GrabDecision × Nat) :=
  (decisions.zipIdx.filter (·.1.decision.isAccepted)).filter (·.1.candidate.media.id == mediaId)

/-- The accepted decisions about one media item, with their places, best first. -/
def placedGroup (store : ProfileStore) (now : Instant) (decisions : List GrabDecision)
    (mediaId : MediaId) : List (GrabDecision × Nat) :=
  (placedFor decisions mediaId).mergeSort fun a b =>
    GrabCandidate.cmp store now b.1.candidate a.1.candidate != .gt

/-- The decisions in the order in which they are acted on, with their places. -/
def placedOrder (store : ProfileStore) (now : Instant) (decisions : List GrabDecision) :
    List (GrabDecision × Nat) :=
  (mediaOrder (decisions.filter (·.decision.isAccepted))).flatMap
      (placedGroup store now decisions) ++
    decisions.zipIdx.filter (!·.1.decision.isAccepted)

section

variable {store : ProfileStore} {now : Instant} {decisions : List GrabDecision}

theorem mem_placedFor {mediaId : MediaId} {a : GrabDecision × Nat}
    (h : a ∈ placedFor decisions mediaId) :
    a.1 ∈ decisions ∧ a.1.decision.isAccepted = true ∧ a.1.candidate.media.id = mediaId := by
  rw [placedFor, List.mem_filter, List.mem_filter] at h
  exact ⟨List.fst_mem_of_mem_zipIdx h.1.1, h.1.2, eq_of_beq h.2⟩

theorem mem_placedGroup {mediaId : MediaId} {a : GrabDecision × Nat}
    (h : a ∈ placedGroup store now decisions mediaId) :
    a.1 ∈ decisions ∧ a.1.decision.isAccepted = true ∧ a.1.candidate.media.id = mediaId :=
  mem_placedFor (List.mem_mergeSort.mp h)

/-- The decisions are acted on as their places say. -/
theorem placedOrder_map_fst (store : ProfileStore) (now : Instant)
    (decisions : List GrabDecision) :
    (placedOrder store now decisions).map Prod.fst = prioritize store now decisions := by
  have hkept : ∀ keep : GrabDecision → Bool,
      (decisions.zipIdx.filter fun a => keep a.1).map Prod.fst = decisions.filter keep := by
    intro keep
    rw [map_fst_filter, List.zipIdx_map_fst]
  have hgroup : ∀ mediaId, (placedGroup store now decisions mediaId).map Prod.fst =
      ((decisions.filter (·.decision.isAccepted)).filter
        (·.candidate.media.id == mediaId)).mergeSort fun a b =>
          GrabCandidate.cmp store now b.candidate a.candidate != .gt := by
    intro mediaId
    rw [placedGroup, placedFor, map_fst_mergeSort fun a b : GrabDecision =>
        GrabCandidate.cmp store now b.candidate a.candidate != .gt,
      map_fst_filter fun decision : GrabDecision => decision.candidate.media.id == mediaId,
      hkept (·.decision.isAccepted)]
  rw [placedOrder, prioritize_eq, bestFirst, List.map_append, List.map_flatMap,
    hkept (!·.decision.isAccepted)]
  exact congrArg (· ++ _) (List.flatMap_congr fun mediaId _ => hgroup mediaId)

theorem placedOrder_perm (store : ProfileStore) (now : Instant) (decisions : List GrabDecision) :
    (placedOrder store now decisions).Perm decisions.zipIdx := by
  let accepted := decisions.zipIdx.filter (·.1.decision.isAccepted)
  have hgroups : ((mediaOrder (decisions.filter (·.decision.isAccepted))).flatMap
      (placedGroup store now decisions)).Perm accepted := by
    refine List.Perm.trans (List.Perm.flatMap_left _ fun mediaId _ => List.mergeSort_perm _ _)
      (groups_perm (·.1.candidate.media.id) _ accepted fun a ha => ?_)
    obtain ⟨hmem, haccepted⟩ := List.mem_filter.mp ha
    exact List.mem_map_of_mem (List.mem_filter.mpr ⟨List.fst_mem_of_mem_zipIdx hmem, haccepted⟩)
  exact (hgroups.append_right _).trans (List.filter_append_perm _ decisions.zipIdx)

/-- For a media item, the comparison of accepted candidates is the one by numbers. -/
theorem ShareMedia.exists_cmpUnder (hshare : ShareMedia decisions) (store : ProfileStore)
    (now : Instant) {first : GrabDecision} (hfirst : first ∈ decisions) :
    ∃ (profile : Profile) (preferred : Protocol), ∀ a ∈ decisions,
      a.candidate.media.id = first.candidate.media.id → ∀ b : GrabCandidate,
        GrabCandidate.cmp store now a.candidate b =
          GrabCandidate.cmpUnder profile preferred now a.candidate b := by
  refine ⟨first.candidate.profile, (store.delayFor first.candidate.media.tags).preferred,
    fun a ha hmedia b => ?_⟩
  obtain ⟨hprofile, htags⟩ := hshare a ha first hfirst hmedia
  exact GrabCandidate.cmp_eq_cmpUnder hprofile (by rw [htags]) now b

/-- **Within a media item the preferred candidate comes first**, and equals stay as they came. -/
theorem placedGroup_pairwise (hshare : ShareMedia decisions) {first : GrabDecision}
    (hfirst : first ∈ decisions) :
    (placedGroup store now decisions first.candidate.media.id).Pairwise
      (Precedes store now decisions) := by
  obtain ⟨profile, preferred, hcmp⟩ := hshare.exists_cmpUnder store now hfirst
  let le := fun a b : GrabDecision × Nat =>
    (GrabCandidate.cmpUnder profile preferred now b.1.candidate a.1.candidate).isLE
  have htrans : ∀ a b c, le a b = true → le b c = true → le a c = true :=
    fun a b c hab hbc => Std.TransCmp.isLE_trans hbc hab
  have htotal : ∀ a b, (le a b || le b a) = true := fun a b => isLE_or_isLE _ _
  have hplaces : (placedFor decisions first.candidate.media.id).Pairwise fun a b => a.2 < b.2 :=
    ((pairwise_zipIdx decisions).filter _).filter _
  -- within the group the numbers say the same as the comparison, and they are a total preorder
  have hsame : placedGroup store now decisions first.candidate.media.id =
      (placedFor decisions first.candidate.media.id).mergeSort le := by
    refine mergeSort_congr fun a _ b hb => ?_
    obtain ⟨hmem, -, hmedia⟩ := mem_placedFor hb
    rw [hcmp b.1 hmem hmedia]
    exact Ordering.isLE_eq_not_beq_gt.symm
  rw [hsame]
  refine (pairwise_mergeSort_of_pairwise htrans htotal hplaces).imp_of_mem fun {a b} ha hb hab => ?_
  obtain ⟨hmem, haccepted, hmedia⟩ := mem_placedFor (List.mem_mergeSort.mp ha)
  obtain ⟨-, hbaccepted, hbmedia⟩ := mem_placedFor (List.mem_mergeSort.mp hb)
  obtain ⟨hle, htie⟩ := hab
  -- what stands behind is no better, and if it is as good then it came later
  by_cases hbetter : GrabCandidate.cmp store now a.1.candidate b.1.candidate = .gt
  · exact .preferred haccepted hbaccepted (hmedia.trans hbmedia.symm) hbetter
  · rw [hcmp a.1 hmem hmedia] at hbetter
    have hback : le b a = true := Ordering.isLE_iff_ne_gt.mpr hbetter
    have hequal := Std.OrientedCmp.isLE_antisymm hback hle
    rw [← hcmp a.1 hmem hmedia] at hequal
    exact .equal haccepted hbaccepted (hmedia.trans hbmedia.symm) hequal (htie hback)

/-- **The decisions are acted on in order.** -/
theorem placedOrder_pairwise (store : ProfileStore) (now : Instant)
    (hshare : ShareMedia decisions) :
    (placedOrder store now decisions).Pairwise (Precedes store now decisions) := by
  have hrejected : ∀ b ∈ decisions.zipIdx.filter (!·.1.decision.isAccepted),
      b.1.decision.isAccepted = false :=
    fun b hb => (Bool.not_eq_true' _).mp (List.mem_filter.mp hb).2
  refine List.pairwise_append.mpr ⟨List.pairwise_flatMap.mpr ⟨?within, ?between⟩, ?behind, ?across⟩
  case within =>
    intro mediaId hmedia
    rw [mediaOrder, List.mem_eraseDups] at hmedia
    obtain ⟨first, hfirst, rfl⟩ := List.mem_map.mp hmedia
    exact placedGroup_pairwise hshare (List.mem_filter.mp hfirst).1
  case between =>
    refine (pairwise_eraseDups_idxOf _).imp fun {mediaId other} hfirst a ha b hb => ?_
    obtain ⟨-, haccepted, rfl⟩ := mem_placedGroup ha
    obtain ⟨-, hbaccepted, rfl⟩ := mem_placedGroup hb
    exact .appeared haccepted hbaccepted hfirst
  case behind =>
    refine ((pairwise_zipIdx decisions).filter _).imp_of_mem fun {a b} ha hb hplace => ?_
    exact .rejected (hrejected a ha) (hrejected b hb) hplace
  case across =>
    intro a ha b hb
    obtain ⟨mediaId, -, hgroup⟩ := List.mem_flatMap.mp ha
    exact .accepted (mem_placedGroup hgroup).2.1 (hrejected b hb)

end

/-- Decisions with sizes that are rounded are put in order. -/
theorem prioritize?_eq_some {store : ProfileStore} {now : Instant} {decisions : List GrabDecision}
    (hsizes : ∀ decision ∈ decisions,
      decision.candidate.release.size.toNat + 100 * 1024 * 1024 < UInt64.size) :
    prioritize? store now decisions = some (prioritize store now decisions) := by
  rw [prioritize?, if_pos]
  refine List.pairwise_iff_forall_sublist.mpr fun {a b} hsub => ?_
  have ha := hsizes a (List.mem_filter.mp (hsub.subset (by simp))).1
  have hb := hsizes b (List.mem_filter.mp (hsub.subset (by simp))).1
  rw [isComparable, GrabCandidate.cmp?_eq_some_of_rounded ha hb,
    GrabCandidate.cmp?_eq_some_of_rounded hb ha]
  exact Bool.or_true _

/-- What is asked of the order in which decisions are acted on.  For a media item the comparison is
a total preorder on the accepted candidates, and it takes their sizes without overflow.  Every
decision comes out at one place, and those ahead of others have a reason to be. -/
structure SortsStably (store : ProfileStore) (now : Instant) (decisions : List GrabDecision) :
    Prop where
  /-- A candidate is as good as itself. -/
  refl : ∀ a ∈ decisions, a.decision.isAccepted = true →
    GrabCandidate.cmp store now a.candidate a.candidate = .eq
  /-- Compared the other way round, two candidates for a media item are told apart the same. -/
  swap : ∀ a ∈ decisions, ∀ b ∈ decisions, a.decision.isAccepted = true →
    b.decision.isAccepted = true → a.candidate.media.id = b.candidate.media.id →
      GrabCandidate.cmp store now a.candidate b.candidate =
        (GrabCandidate.cmp store now b.candidate a.candidate).swap
  /-- Of candidates for a media item, one that is no better than another is no better than what the
  other is no better than. -/
  trans : ∀ a ∈ decisions, ∀ b ∈ decisions, ∀ c ∈ decisions, a.decision.isAccepted = true →
    b.decision.isAccepted = true → c.decision.isAccepted = true →
      a.candidate.media.id = b.candidate.media.id → b.candidate.media.id = c.candidate.media.id →
        (GrabCandidate.cmp store now a.candidate b.candidate).isLE = true →
          (GrabCandidate.cmp store now b.candidate c.candidate).isLE = true →
            (GrabCandidate.cmp store now a.candidate c.candidate).isLE = true
  /-- Sizes are rounded to the nearest step. -/
  rounded : ∀ a ∈ decisions, sizeBucket? a.candidate.release.size =
    some ((a.candidate.release.size.toNat + 100 * 1024 * 1024) / (200 * 1024 * 1024))
  /-- The program compares any two candidates, and puts the decisions in order. -/
  compared : ∀ a ∈ decisions, ∀ b ∈ decisions,
    GrabCandidate.cmp? store now a.candidate b.candidate =
      some (GrabCandidate.cmp store now a.candidate b.candidate)
  answered : prioritize? store now decisions = some (prioritize store now decisions)
  /-- The decisions come out in an order of their places in which each has a reason to be ahead of
  those behind it. -/
  arranged : ∃ order : List (GrabDecision × Nat), order.Perm decisions.zipIdx ∧
    prioritize store now decisions = order.map Prod.fst ∧
      order.Pairwise (Precedes store now decisions)

/-- **Decisions are sorted stably, in groups.**  Where candidates for one media item share a profile
and tags, and no size is within half a step of the largest number, the comparison is a total
preorder on what is accepted for a media item.  Accepted decisions come out by media item, in the
order in which the items first appear, and best first within each; equals, and the rejected
decisions behind them, stay as they came. -/
theorem prioritize_sortsStably (store : ProfileStore) (now : Instant)
    {decisions : List GrabDecision} (hshare : ShareMedia decisions)
    (hsizes : ∀ decision ∈ decisions,
      decision.candidate.release.size.toNat + 100 * 1024 * 1024 < UInt64.size) :
    SortsStably store now decisions where
  refl a ha _ := by
    obtain ⟨profile, preferred, hcmp⟩ := hshare.exists_cmpUnder store now ha
    rw [hcmp a ha rfl]
    exact Std.ReflCmp.compare_self
  swap a ha b hb _ _ hmedia := by
    obtain ⟨profile, preferred, hcmp⟩ := hshare.exists_cmpUnder store now ha
    rw [hcmp a ha rfl, hcmp b hb hmedia.symm]
    exact Std.OrientedCmp.eq_swap
  trans a ha b hb c _ _ _ _ hab _ := by
    obtain ⟨profile, preferred, hcmp⟩ := hshare.exists_cmpUnder store now ha
    rw [hcmp a ha rfl, hcmp a ha rfl, hcmp b hb hab.symm]
    exact Std.TransCmp.isLE_trans
  rounded a ha := sizeBucket?_eq_some (hsizes a ha)
  compared a ha b hb := GrabCandidate.cmp?_eq_some_of_rounded (hsizes a ha) (hsizes b hb)
  answered := prioritize?_eq_some hsizes
  arranged := ⟨placedOrder store now decisions, placedOrder_perm store now decisions,
    (placedOrder_map_fst store now decisions).symm, placedOrder_pairwise store now hshare⟩

/-- A decision about an offer for a media item, with what counts for its preference. -/
def decidedOn (mediaId : MediaId) (protocol : Protocol) (seeders : Option Nat) (size : UInt64)
    (decision : Decision) : GrabDecision where
  candidate :=
    { release := { (default : Release) with protocol, seeders, size }
      parsed := default
      media := { (default : Media) with id := mediaId }
      profile := default
      downloadId := none }
  decision := decision

/-- Offers over both protocols for two media items, one of them rejected. -/
def mixedOffers : List GrabDecision :=
  [decidedOn 7 .torrent (some 9) 300000000 .accepted,
    decidedOn 8 .torrent none 700000000 .accepted,
    decidedOn 7 .usenet none 700000000 (.reject .blocklisted "known to fail"),
    decidedOn 7 .torrent (some 90) 700000000 .accepted,
    decidedOn 7 .torrent (some 110) 701000000 .accepted,
    decidedOn 7 .usenet none 300000000 .accepted]

/-- Offers that share a profile and tags, none of them too large, are sorted stably. -/
theorem mixedOffers_sortsStably :
    ShareMedia mixedOffers ∧
      (∀ decision ∈ mixedOffers,
        decision.candidate.release.size.toNat + 100 * 1024 * 1024 < UInt64.size) ∧
      SortsStably default 0 mixedOffers := by
  have hshare : ShareMedia mixedOffers := by
    have hsame : ∀ a ∈ mixedOffers,
        a.candidate.profile = default ∧ a.candidate.media.tags = (default : Media).tags := by
      simp [mixedOffers, decidedOn]
    intro a ha b hb _
    rw [(hsame a ha).1, (hsame a ha).2, (hsame b hb).1, (hsame b hb).2]
    exact ⟨rfl, rfl⟩
  have hsizes : ∀ decision ∈ mixedOffers,
      decision.candidate.release.size.toNat + 100 * 1024 * 1024 < UInt64.size := by
    simp [mixedOffers, decidedOn, UInt64.size]
  exact ⟨hshare, hsizes, prioritize_sortsStably default 0 hshare hsizes⟩

end Acquisition
