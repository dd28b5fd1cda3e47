import Acquisition.Proofs.Desk.Waiting
import Acquisition.Proofs.Grab.HeldBack

/-!
# When the history does not answer

A rule that asks the history and gets no answer rejects the release, and it rejects it for good: only the
rules about the age of a release reject for now.  What waits is evaluated again all the time, so a
release that was only to wait for its time is dropped when the history happens to be out of reach.

## Main results

* `GrabRules.isFinal_of_unavailable`: a rejection for want of an answer is one for good.
* `Desk.holds_retry_iff`: what is rejected waits still exactly if it is rejected for now.
* `Desk.waits_through_outage_iff`: **what waits does not wait through an outage.**
-/

namespace Acquisition

/-! ### The rule that rejects -/

/-- A decision that rejects is the one of some outcome. -/
theorem exists_of_firstRejection {rejection : Rejection} : ∀ {outcomes : List RuleOutcome},
    firstRejection outcomes = .rejected rejection →
      ∃ outcome ∈ outcomes, outcome.decision = .rejected rejection := by
  intro outcomes
  induction outcomes with
  | nil => exact fun h => nomatch h
  | cons outcome outcomes ih =>
    intro h
    cases hdecision : outcome.decision with
    | accepted =>
      rw [firstRejection_cons_accepted hdecision] at h
      obtain ⟨later, hmem, hlater⟩ := ih h
      exact ⟨later, List.mem_cons_of_mem _ hmem, hlater⟩
    | rejected first =>
      rw [firstRejection_cons_rejected hdecision] at h
      exact ⟨outcome, List.mem_cons_self, hdecision.trans h⟩

namespace GrabRules

variable {ρ : Type} {deps : GrabRules ρ} {candidate : GrabCandidate}
  {context : Option SearchContext} {s : ρ} {rejection : Rejection}

/-- What the engine rejects some rule rejects. -/
theorem exists_rule_of_rejected
    (h : (deps.engine.decide candidate context s).1 = .rejected rejection) :
    ∃ rule ∈ deps.rules, rule.verdict candidate context s = .rejected rejection := by
  rw [Engine.decide_fst, explain_fst] at h
  obtain ⟨outcome, hmem, hdecision⟩ := exists_of_firstRejection h
  obtain ⟨rule, hrule, rfl⟩ := List.mem_map.mp hmem
  exact ⟨rule, hrule, hdecision⟩

/-- A time gate rejects for the age of a release, and for nothing else. -/
theorem kind_of_gate {rule : Rule ρ GrabCandidate} (hmem : rule ∈ deps.rules)
    (hgate : isTimeGate rule.name = true)
    (h : rule.verdict candidate context s = .rejected rejection) :
    rejection.kind = .minimumAge ∨ rejection.kind = .delayWindow := by
  have hmem : rule ∈ deps.rules.filter fun rule => isTimeGate rule.name :=
    List.mem_filter.mpr ⟨hmem, hgate⟩
  rw [gates_eq] at hmem
  rcases List.mem_pair.mp hmem with rfl | rfl
  · left
    simp only [Rule.verdict, minimumAge, Rule.pure] at h
    repeat' split at h
    all_goals cases h
    rfl
  · right
    simp only [Rule.verdict, delay, Rule.pure] at h
    repeat' split at h
    all_goals cases h
    rfl

/-- **A rejection for want of an answer is one for good.** -/
theorem isFinal_of_unavailable
    (h : (deps.engine.decide candidate context s).1 = .rejected rejection)
    (hkind : rejection.kind = .collaboratorUnavailable) :
    (Decision.rejected rejection).isFinal = true := by
  obtain ⟨rule, hmem, hverdict⟩ := exists_rule_of_rejected h
  cases hgate : isTimeGate rule.name with
  | false =>
    rcases lasting_verdict (mem_lastingRules.mpr ⟨hmem, hgate⟩) with haccepts | hfinal
    · rw [hverdict] at haccepts
      exact absurd haccepts nofun
    · rwa [hverdict] at hfinal
  | true =>
    rcases kind_of_gate hmem hgate hverdict with hage | hdelay
    · rw [hkind] at hage
      exact absurd hage nofun
    · rw [hkind] at hdelay
      exact absurd hdelay nofun

end GrabRules

/-! ### What waits still -/

namespace PendingReleases

/-- A release waits if it is found by what it offers. -/
theorem holds_iff {pending : PendingReleases} {candidate : GrabCandidate} :
    pending.Holds candidate ↔ pending.waiting? candidate.offer ≠ none := by
  rw [Holds, waiting?, Ne, List.find?_eq_none, not_forall]
  simp only [← GrabCandidate.sameRelease_iff, PendingRelease.offer, GrabCandidate.sameRelease_eq,
    not_forall, Decidable.not_not, exists_prop]

end PendingReleases

namespace Desk

variable {σ : Type} {desk : Desk σ}

/-- **What is rejected waits still** exactly if it is rejected for now, and nothing was grabbed for its
media item. -/
theorem holds_retry_iff {verdict : PendingRelease → Decision} (honce : desk.pending.Once)
    (setup : Setup σ) (now : Instant) {release : PendingRelease}
    (hmem : release ∈ desk.pending.releases) {rejection : Rejection}
    (hrejected : verdict release = .rejected rejection) :
    (desk.retry setup now verdict).2.pending.Holds release.candidate ↔
      rejection.type = .temporary ∧
        (desk.retry setup now verdict).1.covers release.candidate.media.id = false := by
  have hwaits : desk.pending.waiting? release.candidate.offer = some release :=
    honce.waiting?_of_mem hmem
  have hmedia : release.candidate.offer.1 = release.candidate.media.id := rfl
  rw [PendingReleases.holds_iff, waiting?_retry honce, hwaits, Option.bind_some, hrejected, hmedia]
  rcases rejection with ⟨kind, message, _ | _⟩ <;>
    cases (desk.retry setup now verdict).1.covers release.candidate.media.id <;>
      simp [Decision.isFinal]

/-- **What waits does not wait through an outage.**  What is rejected waits still exactly if it is
rejected for now and nothing was grabbed for its media item.  The rules, whatever history they ask and
in whatever state it is, never reject for now for want of an answer: such a release waits no longer. -/
theorem waits_through_outage_iff (setup : Setup σ) (clients : σ) (steps : List (WaitingStep σ))
    (now : Instant) :
    let desk := (blank clients).runWaiting setup steps
    (∀ (verdict : PendingRelease → Decision), ∀ release ∈ desk.pending.releases,
        ∀ rejection, verdict release = .rejected rejection →
          ((desk.retry setup now verdict).2.pending.Holds release.candidate ↔
            rejection.type = .temporary ∧
              (desk.retry setup now verdict).1.covers release.candidate.media.id = false)) ∧
      ∀ (ρ : Type) (deps : GrabRules ρ) (state : PendingRelease → ρ),
        let verdict := fun release : PendingRelease =>
          (deps.engine.decide release.candidate (some .rss) (state release)).1
        ∀ release ∈ desk.pending.releases, ∀ rejection, verdict release = .rejected rejection →
          rejection.kind = .collaboratorUnavailable →
            ¬ (desk.retry setup now verdict).2.pending.Holds release.candidate := by
  intro desk
  have honce : desk.pending.Once :=
    (runWaiting_sound setup steps (.blank clients) PendingReleases.Once.empty).2
  refine ⟨fun verdict release hmem rejection hrejected =>
    holds_retry_iff honce setup now hmem hrejected, ?_⟩
  intro ρ deps state verdict release hmem rejection hrejected hkind hholds
  have htemporary := ((holds_retry_iff honce setup now hmem hrejected).mp hholds).1
  have hfinal := GrabRules.isFinal_of_unavailable hrejected hkind
  rcases rejection with ⟨kind, message, _ | _⟩
  · exact absurd htemporary nofun
  · exact absurd hfinal nofun

/-! ### An outage -/

open GrabRules

/-- A release of which the download is known, so that the history is asked about it. -/
def knownCandidate : GrabCandidate :=
  { freshCandidate with downloadId := some "DL-1" }

/-- The rules at the epoch, with a history that is out of reach. -/
def unreachableRules : GrabRules Nat where
  store := blockingRules.store
  history := .failing .empty "offline"
  blocklist := []
  queued _ := []
  settings := {}
  now := 0

/-- The release, while it waits for its time. -/
def knownRelease : PendingRelease :=
  ⟨.pending 0, knownCandidate, ⟨.delayWindow, "", .temporary⟩, 0⟩

/-- The release is set aside. -/
def knownSteps : List (WaitingStep (List MemoryClient)) :=
  [.happens (.setAside knownCandidate ⟨.delayWindow, "", .temporary⟩ 0)]

/-- The verdict while the history is out of reach. -/
def unreachableVerdict (release : PendingRelease) : Decision :=
  (unreachableRules.engine.decide release.candidate (some .rss) 0).1

/-- The release waits no longer. -/
theorem known_waits_through_outage :
    let desk := (blank [sab]).runWaiting sabSetup knownSteps
    knownRelease ∈ desk.pending.releases ∧
      ¬ (desk.retry sabSetup 0 unreachableVerdict).2.pending.Holds knownCandidate := by
  intro desk
  have hmem : knownRelease ∈ desk.pending.releases := List.mem_singleton_self knownRelease
  refine ⟨hmem, ?_⟩
  exact (waits_through_outage_iff sabSetup [sab] knownSteps 0).2 Nat unreachableRules (fun _ => 0)
    knownRelease hmem _ rfl rfl

/-- What waits need not wait through an outage: nothing was grabbed, and yet the release is gone. -/
theorem not_waits_through_outage : ¬ ∀ (setup : Setup (List MemoryClient))
    (clients : List MemoryClient) (steps : List (WaitingStep (List MemoryClient))) (now : Instant)
    (verdict : PendingRelease → Decision),
    let desk := (blank clients).runWaiting setup steps
    ∀ release ∈ desk.pending.releases, ∀ rejection, verdict release = .rejected rejection →
      rejection.kind = .collaboratorUnavailable →
      (desk.retry setup now verdict).1.covers release.candidate.media.id = false →
        (desk.retry setup now verdict).2.pending.Holds release.candidate := by
  intro hwaits
  have honce := (runWaiting_sound sabSetup knownSteps (.blank [sab]) PendingReleases.Once.empty).2
  have hmem : knownRelease ∈ ((blank [sab]).runWaiting sabSetup knownSteps).pending.releases :=
    List.mem_singleton_self knownRelease
  have hholds := hwaits sabSetup [sab] knownSteps 0 unreachableVerdict knownRelease hmem _ rfl rfl
    rfl
  have htemporary := ((holds_retry_iff honce sabSetup 0 hmem rfl).mp hholds).1
  exact absurd htemporary nofun

end Desk

end Acquisition
