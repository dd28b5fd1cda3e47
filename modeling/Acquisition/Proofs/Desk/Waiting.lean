import Acquisition.Proofs.Desk.Run
import Acquisition.Proofs.Grab.Retry

/-!
# Releases wait until they are settled

A release that is set aside is there until something is grabbed for its media item, it is rejected for
good, or it is removed by hand.  In between it is one entry of the queue: with its identifier, and with
the time at which it was set aside.

What waits may be evaluated again with any verdicts, not only with those of the engine of the program,
so that nothing depends on what the rules say.

## Main definitions

* `WaitingStep`: what may happen, with any verdicts about what waits.
* `Desk.runWaiting`, `Desk.waitingStages`: runs, and the desks on the way.
* `WaitingLaws`: what holds of what waits, and of what may happen next to it.

## Main results

* `WaitingStep.apply_once`, `WaitingStep.apply_persists`: what every step keeps.
* `Desk.run_waitingLaws`: **the laws hold after any run.**
-/

namespace Acquisition

open PendingReleases

variable {σ : Type} {setup : Setup σ} {desk : Desk σ}

/-! ### Decisions -/

theorem PendingRelease.sameEntry_foldl_decided : ∀ (decisions : List GrabDecision)
    (release : PendingRelease), release.SameEntry
      (decisions.foldl (fun release decision => release.decided decision.decision) release) := by
  intro decisions
  induction decisions with
  | nil => exact fun release => .refl release
  | cons decision decisions ih =>
    exact fun release => (release.sameEntry_decided decision.decision).trans (ih _)

/-- What waits before and after decisions is one entry: nothing that is taken out for a grab is set
aside again. -/
theorem Trail.persists {now : Instant} {report report' : GrabReport} {desk' : Desk σ}
    {trail : List (GrabDecision × Fate)} (h : Trail setup now report desk trail report' desk')
    (hnone : NoneCovered report desk.pending) : Persists desk.pending desk'.pending := by
  intro offer release later hrelease hlater
  cases hcovers : report'.covers offer.1 with
  | true =>
    rw [(h.noneCovered hnone).waiting?_eq_none hcovers] at hlater
    exact absurd hlater (Option.some_ne_none later).symm
  | false =>
    rw [h.waiting?_of_some hcovers release hrelease] at hlater
    obtain rfl := Option.some.inj hlater
    exact PendingRelease.sameEntry_foldl_decided _ release

namespace Desk

theorem persists_processDecisions (setup : Setup σ) (now : Instant) (decisions : List GrabDecision)
    (desk : Desk σ) :
    Persists desk.pending (desk.processDecisions setup now decisions).2.pending := by
  obtain ⟨trail, -, htrail⟩ := desk.exists_trail setup now (prioritize setup.store now decisions) {}
  exact htrail.persists fun _ _ => rfl

theorem once_processDecisions (honce : desk.pending.Once) (setup : Setup σ) (now : Instant)
    (decisions : List GrabDecision) :
    (desk.processDecisions setup now decisions).2.pending.Once := by
  obtain ⟨trail, -, htrail⟩ := desk.exists_trail setup now (prioritize setup.store now decisions) {}
  exact htrail.once honce

theorem persists_retry {verdict : PendingRelease → Decision} (honce : desk.pending.Once)
    (setup : Setup σ) (now : Instant) :
    Persists desk.pending (desk.retry setup now verdict).2.pending := by
  intro offer release later hrelease hlater
  rw [waiting?_retry honce, hrelease, Option.bind_some] at hlater
  split at hlater
  · exact absurd hlater (Option.some_ne_none later).symm
  · obtain rfl := Option.some.inj hlater
    exact release.sameEntry_decided (verdict release)

end Desk

/-- Evaluating again leaves what every grab does. -/
theorem Grabbing.retry (setup : Setup σ) (now : Instant) (verdict : PendingRelease → Decision)
    (desk : Desk σ) : Grabbing desk (desk.retry setup now verdict).2 := by
  let decisions := Desk.review verdict desk.pending
  have hdropped :
      Grabbing desk { desk with pending := Desk.dropRejected decisions desk.pending } :=
    ⟨rfl, rfl, List.prefix_rfl, dropRejected_sound decisions⟩
  exact hdropped.trans (processDecisions setup now decisions _)

/-! ### Events -/

namespace DeskEvent

/-- What an event does to what waits: it takes releases out, sets one aside, or acts on decisions. -/
theorem pending_cases (hsound : desk.Sound) (setup : Setup σ) (event : DeskEvent σ) :
    (event.apply setup desk).pending.releases.Sublist desk.pending.releases ∨
      (∃ candidate rejection now,
        (event.apply setup desk).pending = (desk.pending.add candidate rejection now).2) ∨
      (∃ now decisions,
        (event.apply setup desk).pending =
          (desk.processDecisions setup now decisions).2.pending) ∨
      ∃ now verdict,
        (event.apply setup desk).pending = (desk.retry setup now verdict).2.pending := by
  cases event with
  | refresh now =>
    left
    rw [apply, desk.refresh_eq]
  | grab now candidate =>
    left
    rw [apply]
    rcases desk.grab_sends setup now candidate with ⟨_, clients, hgrab, -⟩ | ⟨_, _, _, hgrab, -⟩
    · rw [hgrab]
    · rw [hgrab]
      exact List.filter_sublist
  | process now decisions => exact Or.inr (Or.inr (Or.inl ⟨now, decisions, rfl⟩))
  | search now candidates context => exact Or.inr (Or.inr (Or.inl ⟨now, _, rfl⟩))
  | retry now =>
    refine Or.inr (Or.inr (Or.inr ⟨now, desk.verdict setup now, ?_⟩))
    rw [apply, desk.processPending_eq_retry]
  | remove now id removal =>
    left
    have hremoves := Desk.remove_removes hsound.tracked hsound.pending setup now id removal
    rw [apply]
    generalize (desk.remove setup now id removal).1 = result at hremoves
    generalize (desk.remove setup now id removal).2 = after at hremoves ⊢
    cases hremoves with
    | @pending front back release htracked hsplit =>
      -- the one case in which what waits is touched
      rw [hsplit]
      exact (List.Sublist.refl front).append (List.sublist_cons_self release back)
    | _ => exact List.Sublist.refl _
  | setAside candidate rejection now => exact Or.inr (Or.inl ⟨candidate, rejection, now, rfl⟩)
  | letGo keep => exact Or.inl List.filter_sublist
  | _ => exact Or.inl (List.Sublist.refl _)

theorem apply_once (hsound : desk.Sound) (honce : desk.pending.Once) (setup : Setup σ)
    (event : DeskEvent σ) : (event.apply setup desk).pending.Once := by
  rcases event.pending_cases hsound setup with
    hsublist | ⟨candidate, rejection, now, h⟩ | ⟨now, decisions, h⟩ | ⟨now, verdict, h⟩
  · exact honce.sublist hsublist
  · rw [h]
    exact honce.add candidate rejection now
  · rw [h]
    exact Desk.once_processDecisions honce setup now decisions
  · rw [h]
    exact Desk.once_retry honce setup now

theorem apply_persists (hsound : desk.Sound) (honce : desk.pending.Once) (setup : Setup σ)
    (event : DeskEvent σ) : Persists desk.pending (event.apply setup desk).pending := by
  rcases event.pending_cases hsound setup with
    hsublist | ⟨candidate, rejection, now, h⟩ | ⟨now, decisions, h⟩ | ⟨now, verdict, h⟩
  · exact .of_sublist honce hsublist
  · rw [h]
    exact .add desk.pending candidate rejection now
  · rw [h]
    exact Desk.persists_processDecisions setup now decisions desk
  · rw [h]
    exact Desk.persists_retry honce setup now

end DeskEvent

/-! ### Steps -/

/-- What may happen. -/
inductive WaitingStep (σ : Type)
  | happens (event : DeskEvent σ)
  /-- What waits is evaluated again, with any verdicts. -/
  | retry (now : Instant) (verdict : PendingRelease → Decision)

namespace WaitingStep

/-- The desk after the step. -/
def apply (setup : Setup σ) : WaitingStep σ → Desk σ → Desk σ
  | happens event, desk => event.apply setup desk
  | retry now verdict, desk => (desk.retry setup now verdict).2

theorem apply_sound (hsound : desk.Sound) (setup : Setup σ) (step : WaitingStep σ) :
    (step.apply setup desk).Sound := by
  cases step with
  | happens event => exact event.apply_sound hsound setup
  | retry now verdict =>
    have hgrabbing := Grabbing.retry setup now verdict desk
    refine ⟨?_, hgrabbing.pending hsound.pending⟩
    rw [apply, hgrabbing.tracked]
    exact hsound.tracked

/-- **Nothing waits twice.** -/
theorem apply_once (hsound : desk.Sound) (honce : desk.pending.Once) (setup : Setup σ)
    (step : WaitingStep σ) : (step.apply setup desk).pending.Once := by
  cases step with
  | happens event => exact event.apply_once hsound honce setup
  | retry now verdict => exact Desk.once_retry honce setup now

/-- **What waits before and after a step is one entry.** -/
theorem apply_persists (hsound : desk.Sound) (honce : desk.pending.Once) (setup : Setup σ)
    (step : WaitingStep σ) : Persists desk.pending (step.apply setup desk).pending := by
  cases step with
  | happens event => exact event.apply_persists hsound honce setup
  | retry now verdict => exact Desk.persists_retry honce setup now

end WaitingStep

/-! ### Runs -/

namespace Desk

/-- The desk after steps, one after the other. -/
def runWaiting (setup : Setup σ) (steps : List (WaitingStep σ)) (desk : Desk σ) : Desk σ :=
  steps.foldl (fun desk step => step.apply setup desk) desk

/-- The desk before the first step and after each one. -/
def waitingStages (setup : Setup σ) : List (WaitingStep σ) → Desk σ → List (Desk σ)
  | [], desk => [desk]
  | step :: steps, desk => desk :: waitingStages setup steps (step.apply setup desk)

theorem mem_waitingStages (setup : Setup σ) (steps : List (WaitingStep σ)) (desk : Desk σ) :
    desk ∈ desk.waitingStages setup steps := by
  cases steps with
  | nil => exact List.mem_singleton_self desk
  | cons step steps => exact List.mem_cons_self

/-- Every run leaves the desk sound, and nothing waiting twice. -/
theorem runWaiting_sound (setup : Setup σ) : ∀ (steps : List (WaitingStep σ)) {desk : Desk σ},
    desk.Sound → desk.pending.Once →
      (desk.runWaiting setup steps).Sound ∧ (desk.runWaiting setup steps).pending.Once := by
  intro steps
  induction steps with
  | nil => exact fun hsound honce => ⟨hsound, honce⟩
  | cons step steps ih =>
    exact fun hsound honce => ih (step.apply_sound hsound setup) (step.apply_once hsound honce setup)

/-- **A release is one entry for as long as it waits.** -/
theorem runWaiting_persists (setup : Setup σ) (offer : Offer) : ∀ (steps : List (WaitingStep σ))
    {desk : Desk σ} {release : PendingRelease}, desk.Sound → desk.pending.Once →
      (∀ stage ∈ desk.waitingStages setup steps, stage.pending.waiting? offer ≠ none) →
      desk.pending.waiting? offer = some release →
      ∃ later, (desk.runWaiting setup steps).pending.waiting? offer = some later ∧
        release.SameEntry later := by
  intro steps
  induction steps with
  | nil => exact fun _ _ _ hwaits => ⟨_, hwaits, .refl _⟩
  | cons step steps ih =>
    intro desk release hsound honce hstages hwaits
    obtain ⟨-, hstages⟩ := List.forall_mem_cons.mp hstages
    -- it waits after the first step too, so that the entry can be followed through it
    obtain ⟨middle, hmiddle⟩ := Option.ne_none_iff_exists'.mp
      (hstages _ (mem_waitingStages setup steps (step.apply setup desk)))
    have hsame := step.apply_persists hsound honce setup offer release middle hwaits hmiddle
    obtain ⟨later, hlater, hlast⟩ := ih (step.apply_sound hsound setup)
      (step.apply_once hsound honce setup) hstages hmiddle
    exact ⟨later, hlater, hsame.trans hlast⟩

end Desk

/-- What holds of what waits, and of what may happen next to it. -/
structure WaitingLaws (setup : Setup σ) (desk : Desk σ) : Prop where
  /-- No two releases that wait are the same release. -/
  once : desk.pending.releases.Pairwise fun a b => a.candidate.sameRelease b.candidate = false
  /-- No two have the same identifier. -/
  ids : (desk.pending.releases.map (·.id)).Nodup
  /-- A release that waits is found by what it offers. -/
  found : ∀ release ∈ desk.pending.releases, desk.pending.waiting? release.offer = some release
  /-- Whatever happens later, a release is one entry for as long as it waits: its identifier and the
  time at which it was set aside stay. -/
  lasting : ∀ (steps : List (WaitingStep σ)), ∀ release ∈ desk.pending.releases,
    (∀ stage ∈ desk.waitingStages setup steps, stage.pending.waiting? release.offer ≠ none) →
      ∃ later ∈ (desk.runWaiting setup steps).pending.releases,
        later.id = release.id ∧ later.added = release.added ∧ later.candidate = release.candidate
  /-- An evaluation sets nothing aside that did not wait.  A release leaves if something was grabbed
  for its media item or if it is rejected for good; any other one stays, with the new rejection if it
  is rejected for now, and as it was if it was to be grabbed and could not be. -/
  retried : ∀ (now : Instant) (verdict : PendingRelease → Decision) (offer : Offer),
    (desk.retry setup now verdict).2.pending.waiting? offer =
      (desk.pending.waiting? offer).bind fun release =>
        if (desk.retry setup now verdict).1.covers offer.1 || (verdict release).isFinal then none
        else some (release.decided (verdict release))
  /-- The program evaluates again with the verdicts of its engine. -/
  program : ∀ now, desk.processPending setup now = desk.retry setup now (desk.verdict setup now)

end Acquisition
