import Acquisition.Proofs.Grab.HeldBack
import Acquisition.Queue.Service

/-!
# Gates that open once

Two rules for a grab ask for the time.  Each of them is a gate: it is closed up to an instant and
open from then on, or open at all times.  The other rules say the same at all times, so the engine
accepts a release at no time, or at every time at which both gates are open.

The delay and the queue work out the end of the wait separately.  They come to the same instant: the
queue shows when the gate opens.

## Main definitions

* `GrabRules.atTime`: the rules at another time.
* `OldEnough`, `Released`: the minimum age and the delay let a candidate through.
* `Exempt`: the delay does not apply to a candidate.

## Main results

* `GrabRules.accepts_atTime_iff`: the engine accepts what is admissible while both gates are open.
* `GrabRules.gates_open_once`: **acceptance begins at one time, and at the one that is shown.**
-/

namespace Acquisition

/-! ### The gates -/

/-- The minimum age lets the candidate through: it comes by torrent, no age is asked for, or the
release has been out for that long. -/
def OldEnough (settings : DecisionSettings) (candidate : GrabCandidate) (now : Instant) : Prop :=
  candidate.release.protocol = .torrent ∨ settings.minimumAgeMinutes = 0 ∨
    candidate.release.published + Span.ofMinutes settings.minimumAgeMinutes ≤ now

/-- The delay does not apply to the candidate: a user searched, there is no delay, the quality is
the last one that the profile wants, or it is a redone release of the file where these are
wanted. -/
def Exempt (settings : DecisionSettings) (store : ProfileStore) (context : Option SearchContext)
    (candidate : GrabCandidate) : Prop :=
  context = some .userInvoked ∨
    (store.delayFor candidate.media.tags).delayFor candidate.release.protocol = 0 ∨
    (∃ best, candidate.profile.lastAllowed? = some best ∧
      best.id = candidate.quality.quality.id) ∨
    ∃ file, candidate.media.file = some file ∧
      UpgradePolicy.Redoes file.quality candidate.quality ∧ settings.propersAndRepacks = true

/-- The delay lets the pending release through: it is exempt, or its release time has come. -/
def Released (settings : DecisionSettings) (store : ProfileStore) (context : Option SearchContext)
    (pending : PendingRelease) (now : Instant) : Prop :=
  Exempt settings store context pending.candidate ∨ pending.releaseTime store ≤ now

instance (settings : DecisionSettings) (candidate : GrabCandidate) (now : Instant) :
    Decidable (OldEnough settings candidate now) :=
  inferInstanceAs (Decidable (_ ∨ _ ∨ _))

/-- A gate that is open stays open. -/
theorem OldEnough.mono {settings : DecisionSettings} {candidate : GrabCandidate}
    {earlier later : Instant} (h : OldEnough settings candidate earlier) (hle : earlier ≤ later) :
    OldEnough settings candidate later :=
  h.imp_right fun h => h.imp_right fun h => Int.le_trans h hle

theorem Released.mono {settings : DecisionSettings} {store : ProfileStore}
    {context : Option SearchContext} {pending : PendingRelease} {earlier later : Instant}
    (h : Released settings store context pending earlier) (hle : earlier ≤ later) :
    Released settings store context pending later :=
  h.imp_right fun h => Int.le_trans h hle

/-! ### What the queue shows -/

/-- The queue shows a pending release with its release time. -/
theorem Desk.exists_shown {σ : Type} (setup : Setup σ) (desk : Desk σ) (now : Instant)
    {pending : PendingRelease} (hmem : pending ∈ desk.pending.releases) :
    ∃ shown ∈ desk.queue setup now, shown.id = pending.id ∧
      shown.expected = some (pending.releaseTime setup.store) :=
  ⟨.ofPending setup.store now pending, List.mem_append_right _ (List.mem_map_of_mem hmem), rfl, rfl⟩

/-! ### One gate at a time -/

namespace GrabRules

variable {σ : Type} {deps : GrabRules σ} {candidate : GrabCandidate}
  {context : Option SearchContext} {s : σ}

/-- The rules at another time, all else being the same. -/
def atTime (deps : GrabRules σ) (now : Instant) : GrabRules σ :=
  { deps with now }

theorem tooYoung_atTime_iff (deps : GrabRules σ) (candidate : GrabCandidate) (now : Instant) :
    TooYoung (deps.atTime now) candidate ↔ ¬ OldEnough deps.settings candidate now := by
  have hprotocol : candidate.release.protocol = .usenet ↔
      ¬ candidate.release.protocol = .torrent := by
    cases candidate.release.protocol <;> decide
  have hage : candidate.release.age now < Span.ofMinutes deps.settings.minimumAgeMinutes ↔
      ¬ candidate.release.published + Span.ofMinutes deps.settings.minimumAgeMinutes ≤ now := by
    rw [Release.age, Int.not_le, Int.sub_lt_iff, Int.add_comm]
  rw [TooYoung, OldEnough, not_or, not_or, hprotocol]
  exact and_congr_right fun _ => and_congr_right fun _ => hage

/-- **The minimum age is open** for torrents, where no age is asked for, and from the age on. -/
theorem minimumAge_accepts_iff (deps : GrabRules σ) (candidate : GrabCandidate)
    (context : Option SearchContext) (s : σ) (now : Instant) :
    (minimumAge deps.settings.minimumAgeMinutes now).verdict candidate context s = .accepted ↔
      OldEnough deps.settings candidate now := by
  by_cases hyoung : TooYoung (deps.atTime now) candidate
  · have htemporary := minimumAge_isTemporary context s hyoung
    rw [tooYoung_atTime_iff] at hyoung
    exact iff_of_false (Decision.ne_accepted_of_isTemporary htemporary) hyoung
  · have haccepts := minimumAge_accepts context s hyoung
    rw [tooYoung_atTime_iff, Decidable.not_not] at hyoung
    exact iff_of_true haccepts hyoung

/-- The release is a redone one of the file, and these are wanted. -/
theorem any_redone_iff (policy : UpgradePolicy) (candidate : GrabCandidate) :
    (candidate.media.file.any fun file =>
      UpgradePolicy.isRevisionUpgrade file.quality candidate.quality &&
        policy.isAllowed candidate.profile file.quality candidate.quality) = true ↔
      ∃ file, candidate.media.file = some file ∧
        UpgradePolicy.Redoes file.quality candidate.quality ∧ policy.propersAndRepacks = true := by
  cases candidate.media.file with
  | none => simp
  | some file =>
    rw [Option.any_some, Bool.and_eq_true, UpgradePolicy.isRevisionUpgrade_iff]
    simp only [Option.some.injEq, exists_eq_left']
    refine and_congr_right fun hredoes => ?_
    rw [(UpgradePolicy.replaces_of_redoes policy candidate.profile hredoes).2.1]

/-- The quality is the last one that the profile wants. -/
theorem any_last_iff (candidate : GrabCandidate) :
    (candidate.profile.lastAllowed?.any (·.same candidate.quality.quality)) = true ↔
      ∃ best, candidate.profile.lastAllowed? = some best ∧
        best.id = candidate.quality.quality.id := by
  cases candidate.profile.lastAllowed? with
  | none => simp
  | some best => simp [Quality.same_iff]

/-- A release is as old as its delay exactly from its release time on. -/
theorem releaseTime_le_iff (store : ProfileStore) (pending : PendingRelease) (now : Instant) :
    pending.releaseTime store ≤ now ↔
      Span.ofMinutes ((store.delayFor pending.candidate.media.tags).delayFor
        pending.candidate.release.protocol) ≤ pending.candidate.release.age now := by
  rw [PendingRelease.releaseTime, Release.age, Int.add_comm]
  exact ⟨Int.le_sub_right_of_add_le, Int.add_le_of_le_sub_right⟩

/-- **The delay is open** for what it does not apply to, and from the release time on. -/
theorem delay_accepts_iff (settings : DecisionSettings) (store : ProfileStore)
    (pending : PendingRelease) (context : Option SearchContext) (s : σ) (now : Instant) :
    (delay (.ofSettings settings) store now).verdict pending.candidate context s = .accepted ↔
      Released settings store context pending now := by
  have hredone := any_redone_iff (.ofSettings settings) pending.candidate
  have hlast := any_last_iff pending.candidate
  rw [Released, Exempt, releaseTime_le_iff]
  simp only [Rule.verdict, delay, Rule.pure]
  -- the rule asks the questions one after the other, and each of them lets through by itself
  split
  next hfree =>
    rw [Bool.or_eq_true, beq_iff_eq, beq_iff_eq] at hfree
    exact iff_of_true rfl (Or.inl (hfree.imp_right Or.inl))
  next hfree =>
    rw [Bool.or_eq_true, beq_iff_eq, beq_iff_eq, not_or] at hfree
    split
    next hbest => exact iff_of_true rfl (Or.inl (Or.inr (Or.inr (Or.inl (hlast.mp hbest)))))
    next hbest =>
      split
      next hproper => exact iff_of_true rfl (Or.inl (Or.inr (Or.inr (Or.inr (hredone.mp hproper)))))
      next hproper =>
        split
        next hage => exact iff_of_true rfl (Or.inr hage)
        next hage =>
          refine iff_of_false (Decision.rejectForNow_ne_accepted _ _) ?_
          rintro ((huser | hnone | hbest' | hproper') | hage')
          · exact hfree.1 huser
          · exact hfree.2 hnone
          · exact hbest (hlast.mpr hbest')
          · exact hproper (hredone.mpr hproper')
          · exact hage hage'

/-! ### The engine -/

/-- What is admissible is so at all times. -/
theorem admissible_atTime_iff (deps : GrabRules σ) (candidate : GrabCandidate) (s : σ)
    (now : Instant) : Admissible (deps.atTime now) candidate s ↔ Admissible deps candidate s :=
  ⟨fun h => ⟨h.tags, h.wanted, h.file, h.unblocked, h.regrab, h.queued⟩,
    fun h => ⟨h.tags, h.wanted, h.file, h.unblocked, h.regrab, h.queued⟩⟩

/-- What holds of all rules holds of the lasting rules and of the two gates. -/
theorem forall_mem_rules_iff (deps : GrabRules σ) (holds : Rule σ GrabCandidate → Prop) :
    (∀ rule ∈ deps.rules, holds rule) ↔ (∀ rule ∈ deps.lastingRules, holds rule) ∧
      holds (minimumAge deps.settings.minimumAgeMinutes deps.now) ∧
      holds (delay (.ofSettings deps.settings) deps.store deps.now) := by
  have hgates : (∀ rule ∈ deps.rules.filter fun rule => isTimeGate rule.name, holds rule) ↔
      holds (minimumAge deps.settings.minimumAgeMinutes deps.now) ∧
        holds (delay (.ofSettings deps.settings) deps.store deps.now) := by
    rw [gates_eq, List.forall_mem_cons, List.forall_mem_singleton]
  rw [← hgates]
  simp only [mem_lastingRules, List.mem_filter, and_imp]
  constructor
  · exact fun h => ⟨fun rule hmem _ => h rule hmem, fun rule hmem _ => h rule hmem⟩
  · rintro ⟨hlasting, hgate⟩ rule hmem
    cases htime : isTimeGate rule.name with
    | false => exact hlasting rule hmem htime
    | true => exact hgate rule hmem htime

/-- **The engine accepts what is admissible while both gates are open.** -/
theorem accepts_atTime_iff (deps : GrabRules σ) (pending : PendingRelease)
    (context : Option SearchContext) (s : σ) (now : Instant) :
    ((deps.atTime now).engine.decide pending.candidate context s).1 = .accepted ↔
      Admissible deps pending.candidate s ∧ OldEnough deps.settings pending.candidate now ∧
        Released deps.settings deps.store context pending now := by
  rw [decide_accepts_iff, forall_mem_rules_iff, lasting_accept_iff, admissible_atTime_iff]
  exact and_congr_right fun _ => and_congr (minimumAge_accepts_iff deps _ context s now)
    (delay_accepts_iff deps.settings deps.store pending context s now)

/-- **Acceptance begins at one time, and at the one that is shown.**  Each gate is closed up to an
instant and open from then on, or always open.  All else being the same, the engine accepts a
candidate at no time, or exactly while both gates are open, so that it never stops to accept it; and
the gate of the delay opens at the time at which the queue expects the release. -/
theorem gates_open_once (deps : GrabRules σ) (candidate : GrabCandidate)
    (context : Option SearchContext) (s : σ) (id : QueueItemId) (rejection : Rejection)
    (added : Instant) :
    let pending : PendingRelease := ⟨id, candidate, rejection, added⟩
    let accepts := fun now =>
      ((deps.atTime now).engine.decide candidate context s).1 = .accepted
    (∀ now, (minimumAge deps.settings.minimumAgeMinutes now).verdict candidate context s =
        .accepted ↔ OldEnough deps.settings candidate now) ∧
      (∀ now, (delay (.ofSettings deps.settings) deps.store now).verdict candidate context s =
        .accepted ↔ Released deps.settings deps.store context pending now) ∧
      (∀ earlier later, earlier ≤ later → accepts earlier → accepts later) ∧
      ((∀ now, ¬ accepts now) ∨
        ∀ now, accepts now ↔ OldEnough deps.settings candidate now ∧
          Released deps.settings deps.store context pending now) ∧
      ∀ {τ : Type} (setup : Setup τ) (desk : Desk τ) (now : Instant), setup.store = deps.store →
        pending ∈ desk.pending.releases → ∃ shown ∈ desk.queue setup now, shown.id = id ∧
          shown.expected = some (pending.releaseTime deps.store) := by
  intro pending accepts
  have haccepts := accepts_atTime_iff deps pending context s
  refine ⟨minimumAge_accepts_iff deps candidate context s,
    delay_accepts_iff deps.settings deps.store pending context s, ?_, ?_, ?_⟩
  · intro earlier later hle hearlier
    obtain ⟨hadmissible, hold, hreleased⟩ := (haccepts earlier).mp hearlier
    exact (haccepts later).mpr ⟨hadmissible, hold.mono hle, hreleased.mono hle⟩
  · by_cases hadmissible : Admissible deps candidate s
    · exact Or.inr fun now => (haccepts now).trans (and_iff_right hadmissible)
    · exact Or.inl fun now hnow => hadmissible ((haccepts now).mp hnow).1
  · intro τ setup desk now hstore hmem
    rw [← hstore]
    exact desk.exists_shown setup now hmem

/-! ### A release that waits -/

/-- The rules with a minimum age of an hour and a delay of two. -/
def patientRules : GrabRules Unit where
  store :=
    { profiles := [], fallback := hdtvProfile, tagged := [],
      untagged := ⟨1, DelayProfile.lastOrder, .usenet, 120, 0, []⟩ }
  history := .ofHistory .empty
  blocklist := []
  queued _ := []
  settings := { minimumAgeMinutes := 60 }
  now := 0

/-- The fresh release under a profile that wants more. -/
def modestCandidate : GrabCandidate :=
  { freshCandidate with
    profile := { hdtvProfile with items := [⟨.hdtv1080p, true⟩, ⟨.bluray1080p, true⟩] } }

/-- The release waits. -/
def modestDesk : Desk Unit :=
  { Desk.blank () with pending := (PendingReleases.empty.add modestCandidate default 0).2 }

/-- The release is accepted at the end of its delay, which is shown, and later, but not before. -/
theorem modest_opens_once :
    let accepts := fun now =>
      ((patientRules.atTime now).engine.decide modestCandidate none ()).1 = .accepted
    ¬ accepts (Span.ofMinutes 119) ∧ accepts (Span.ofMinutes 120) ∧
      accepts (Span.ofMinutes 500) ∧
        ∃ shown ∈ modestDesk.queue ⟨patientRules.store, {}, []⟩ 0,
          shown.id = .pending 0 ∧ shown.expected = some (Span.ofMinutes 120) := by
  intro accepts
  obtain ⟨-, -, hlater, -, hshown⟩ :=
    gates_open_once patientRules modestCandidate none () (.pending 0) default 0
  have haccepts : accepts (Span.ofMinutes 120) := by decide +kernel
  refine ⟨by decide +kernel, haccepts, hlater _ _ (by decide) haccepts, ?_⟩
  exact hshown ⟨patientRules.store, {}, []⟩ modestDesk 0 rfl (by decide)

end GrabRules

end Acquisition
