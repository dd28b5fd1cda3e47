import Acquisition.Proofs.Grab.Pipeline
import Acquisition.Proofs.Queue.Waiting

/-!
# Evaluating what waits again

What waits is evaluated again now and then, as a snapshot: what is rejected for good is taken out by
what it offers, and then all decisions are acted on like any others, by which releases are taken out by
media item and set aside once more.  Yet of one release the outcome is simple.  It leaves if something
was grabbed for its media item or if it is rejected for good, and else it stays the entry that it was.

## Main definitions

* `PendingRelease.decided`: a release that waits, after a decision about it.
* `Desk.retry`: evaluating again with any verdict about each release.

## Main results

* `Trail.waiting?_of_some`, `Trail.waiting?_of_none`: look-up after decisions.
* `Desk.waiting?_retry`: **what waits after an evaluation**, in closed form.
* `Desk.processPending_eq_retry`: the program evaluates again by the rules of its engine.
-/

namespace Acquisition

/-! ### One decision -/

namespace PendingRelease

/-- The release after a decision about it: rejected for now, it waits for the new reason. -/
def decided (release : PendingRelease) : Decision → PendingRelease
  | .rejected ⟨kind, message, .temporary⟩ =>
    { release with rejection := ⟨kind, message, .temporary⟩ }
  | _ => release

theorem decided_of_isAccepted (release : PendingRelease) {decision : Decision}
    (h : decision.isAccepted = true) : release.decided decision = release := by
  cases decision with
  | accepted => rfl
  | rejected => exact absurd h Bool.false_ne_true

theorem decided_of_isFinal (release : PendingRelease) {decision : Decision}
    (h : decision.isFinal = true) : release.decided decision = release := by
  rcases decision with _ | ⟨kind, message, _ | _⟩
  · rfl
  · rfl
  · exact absurd h Bool.false_ne_true

theorem decided_of_isTemporary (release : PendingRelease) {rejection : Rejection}
    (h : (Decision.rejected rejection).isTemporary = true) :
    release.decided (.rejected rejection) = { release with rejection } := by
  rcases rejection with ⟨kind, message, _ | _⟩
  · exact absurd h Bool.false_ne_true
  · rfl

theorem sameEntry_decided (release : PendingRelease) (decision : Decision) :
    release.SameEntry (release.decided decision) := by
  rcases decision with _ | ⟨kind, message, _ | _⟩ <;> exact rfl

end PendingRelease

variable {σ : Type} {setup : Setup σ} {now : Instant} {decision : GrabDecision} {fate : Fate}
  {trail : List (GrabDecision × Fate)} {report report' : GrabReport} {desk desk' : Desk σ}
  {offer : Offer} {release : PendingRelease}

/-- What waits for a media item that stays open is changed by decisions about it, and by no others. -/
theorem Acts.waiting?_of_some (h : Acts setup now decision report desk fate report' desk')
    (hopen : report'.covers offer.1 = false) (hwaits : desk.pending.waiting? offer = some release) :
    desk'.pending.waiting? offer =
      some (if decision.candidate.offer = offer then release.decided decision.decision
        else release) := by
  cases h with
  | grabbed haccepted _ _ =>
    -- what is grabbed is for another media item
    rw [GrabReport.covers_append, Bool.or_eq_false_iff, beq_eq_false_iff_ne] at hopen
    rw [Grab.settle, PendingReleases.waiting?_removeForMedia, if_neg hopen.2.symm, hwaits,
      release.decided_of_isAccepted haccepted, ite_self]
  | failed haccepted _ _ =>
    rw [release.decided_of_isAccepted haccepted, ite_self]
    exact hwaits
  | passed _ hcovers =>
    -- something was grabbed for its media item, so that it is about another one
    have hother : decision.candidate.offer ≠ offer := by
      rintro rfl
      have hmedia : report.covers decision.candidate.media.id = false := hopen
      rw [hcovers] at hmedia
      exact Bool.false_ne_true hmedia.symm
    rw [if_neg hother]
    exact hwaits
  | held hdecision htemporary _ =>
    by_cases hoffer : decision.candidate.offer = offer
    · subst hoffer
      rw [hdecision] at htemporary ⊢
      rw [if_pos rfl, PendingReleases.waiting?_add_self, hwaits,
        release.decided_of_isTemporary htemporary]
    · rw [if_neg hoffer, PendingReleases.waiting?_add_of_ne hoffer]
      exact hwaits
  | rejected hfinal =>
    rw [release.decided_of_isFinal hfinal, ite_self]
    exact hwaits

/-- What does not wait is only set aside by a rejection for now. -/
theorem Acts.waiting?_of_none (h : Acts setup now decision report desk fate report' desk')
    (hnot : decision.candidate.offer = offer → decision.decision.isTemporary = false)
    (hnone : desk.pending.waiting? offer = none) : desk'.pending.waiting? offer = none := by
  cases h with
  | grabbed => rw [Grab.settle, PendingReleases.waiting?_removeForMedia, hnone, ite_self]
  | held _ htemporary _ =>
    have hother : decision.candidate.offer ≠ offer := by
      intro hoffer
      rw [hnot hoffer] at htemporary
      exact Bool.false_ne_true htemporary
    rw [PendingReleases.waiting?_add_of_ne hother]
    exact hnone
  | _ => exact hnone

/-! ### All decisions -/

namespace Trail

/-- **What waits for a media item that stays open** is changed by the decisions about it, in their
order. -/
theorem waiting?_of_some (h : Trail setup now report desk trail report' desk') :
    report'.covers offer.1 = false → ∀ release, desk.pending.waiting? offer = some release →
      desk'.pending.waiting? offer =
        some (((trail.map (·.1)).filter (·.candidate.offer == offer)).foldl
          (fun release decision => release.decided decision.decision) release) := by
  induction h with
  | nil => exact fun _ _ hwaits => hwaits
  | @cons decision fate trail _ _ _ _ _ _ step rest ih =>
    intro hopen release hwaits
    have hstep := step.waiting?_of_some (rest.covers_eq_false hopen) hwaits
    rw [ih hopen _ hstep, List.map_cons, List.filter_cons]
    by_cases hoffer : decision.candidate.offer = offer
    · rw [if_pos hoffer, if_pos (beq_iff_eq.mpr hoffer), List.foldl_cons]
    · have hother : ¬ (decision.candidate.offer == offer) = true := by
        rw [beq_iff_eq]
        exact hoffer
      rw [if_neg hoffer, if_neg hother]

/-- What does not wait is only set aside by a rejection for now. -/
theorem waiting?_of_none (h : Trail setup now report desk trail report' desk') :
    (∀ decision ∈ trail.map (·.1), decision.candidate.offer = offer →
      decision.decision.isTemporary = false) →
    desk.pending.waiting? offer = none → desk'.pending.waiting? offer = none := by
  induction h with
  | nil => exact fun _ hnone => hnone
  | cons step _ ih =>
    intro hnot hnone
    rw [List.map_cons, List.forall_mem_cons] at hnot
    exact ih hnot.2 (step.waiting?_of_none hnot.1 hnone)

/-- Nothing waits twice. -/
theorem once (h : Trail setup now report desk trail report' desk') :
    desk.pending.Once → desk'.pending.Once := by
  induction h with
  | nil => exact id
  | cons step _ ih =>
    intro honce
    refine ih ?_
    -- only a grab and a rejection for now touch what waits
    cases step with
    | grabbed => exact honce.sublist List.filter_sublist
    | held => exact honce.add _ _ _
    | _ => exact honce

end Trail

theorem NoneCovered.waiting?_eq_none {pending : PendingReleases} (h : NoneCovered report pending)
    (hcovers : report.covers offer.1 = true) : pending.waiting? offer = none := by
  refine List.find?_eq_none.mpr fun release hmem hoffer => ?_
  obtain rfl : release.offer = offer := beq_iff_eq.mp hoffer
  have hopen : report.covers release.offer.1 = false := h release hmem
  rw [hopen] at hcovers
  exact Bool.false_ne_true hcovers

/-! ### Rejections for good -/

theorem Decision.isFinal_eq (decision : Decision) :
    decision.isFinal = !(decision.isAccepted || decision.isTemporary) := by
  rcases decision with _ | ⟨kind, message, _ | _⟩ <;> rfl

namespace Desk

/-- What is rejected for good is taken out. -/
theorem waiting?_dropRejected (offer : Offer) : ∀ (decisions : List GrabDecision)
    (pending : PendingReleases), (dropRejected decisions pending).waiting? offer =
      if decisions.any (fun decision => decision.candidate.offer == offer &&
        decision.decision.isFinal) then none else pending.waiting? offer := by
  intro decisions
  induction decisions with
  | nil => exact fun _ => rfl
  | cons decision decisions ih =>
    intro pending
    have hfinal := decision.decision.isFinal_eq
    rw [dropRejected, List.foldl_cons, List.any_cons]
    cases hstays : decision.decision.isAccepted || decision.decision.isTemporary with
    | true =>
      rw [hstays, Bool.not_true] at hfinal
      rw [hfinal, Bool.and_false, Bool.false_or, if_pos rfl]
      exact ih pending
    | false =>
      rw [hstays, Bool.not_false] at hfinal
      have hrest := ih (pending.removeRelease decision.candidate).2
      rw [PendingReleases.waiting?_removeRelease] at hrest
      rw [hfinal, Bool.and_true, if_neg Bool.false_ne_true]
      refine hrest.trans ?_
      -- what is taken out now is not found by the later decisions either
      by_cases hoffer : decision.candidate.offer = offer
      · rw [if_pos hoffer, beq_iff_eq.mpr hoffer, Bool.true_or, if_pos rfl, ite_self]
      · rw [if_neg hoffer, beq_eq_false_iff_ne.mpr hoffer, Bool.false_or]

theorem dropRejected_sublist (decisions : List GrabDecision) : ∀ (pending : PendingReleases),
    (dropRejected decisions pending).releases.Sublist pending.releases := by
  induction decisions with
  | nil => exact fun _ => List.Sublist.refl _
  | cons decision decisions ih =>
    intro pending
    rw [dropRejected, List.foldl_cons]
    split
    · exact ih pending
    · exact (ih _).trans List.filter_sublist

/-! ### Evaluating again -/

/-- The decisions about what waits. -/
def review (verdict : PendingRelease → Decision) (pending : PendingReleases) : List GrabDecision :=
  pending.releases.map fun release => ⟨release.candidate, verdict release⟩

/-- Evaluates what waits again, with the verdict about each release, and acts on the outcome. -/
def retry (setup : Setup σ) (now : Instant) (verdict : PendingRelease → Decision) (desk : Desk σ) :
    GrabReport × Desk σ :=
  let decisions := review verdict desk.pending
  { desk with pending := dropRejected decisions desk.pending }.processDecisions setup now decisions

/-- The verdict of the engine of the program about a release that waits. -/
def verdict (setup : Setup σ) (now : Instant) (desk : Desk σ) (release : PendingRelease) :
    Decision :=
  ((desk.grabRules setup now).engine.decide release.candidate (some .rss) ()).1

/-- **The program evaluates again by the rules of its engine.** -/
theorem processPending_eq_retry (setup : Setup σ) (now : Instant) (desk : Desk σ) :
    desk.processPending setup now = desk.retry setup now (desk.verdict setup now) := by
  have hdecisions : desk.evaluate setup now (desk.pending.releases.map (·.candidate)) (some .rss) =
      review (desk.verdict setup now) desk.pending := by
    rw [evaluate, List.map_map]
    rfl
  rw [processPending, retry]
  split
  next hempty =>
    have hnothing : review (desk.verdict setup now) desk.pending = [] := by
      rw [review, List.isEmpty_iff.mp hempty, List.map_nil]
    rw [hnothing]
    rfl
  next => simp only [hdecisions]

section

variable {verdict : PendingRelease → Decision} {pending : PendingReleases}

/-- Of one offer, at most one decision is made. -/
theorem filter_review (honce : pending.Once) (offer : Offer) :
    (review verdict pending).filter (·.candidate.offer == offer) =
      (pending.waiting? offer).toList.map fun release => ⟨release.candidate, verdict release⟩ := by
  rw [← honce.filter_eq, review, List.filter_map]
  rfl

theorem offer_ne_of_not_waiting (honce : pending.Once) (hnone : pending.waiting? offer = none) :
    ∀ decision ∈ review verdict pending, decision.candidate.offer ≠ offer := by
  intro decision hmem hoffer
  have hfilter : (review verdict pending).filter (·.candidate.offer == offer) = [] := by
    rw [filter_review honce, hnone]
    rfl
  rw [List.filter_eq_nil_iff] at hfilter
  exact hfilter decision hmem (beq_iff_eq.mpr hoffer)

theorem eq_of_waiting (honce : pending.Once) (hwaits : pending.waiting? offer = some release) :
    ∀ decision ∈ review verdict pending, decision.candidate.offer = offer →
      decision = ⟨release.candidate, verdict release⟩ := by
  intro decision hmem hoffer
  have hfound : decision ∈ (review verdict pending).filter (·.candidate.offer == offer) :=
    List.mem_filter.mpr ⟨hmem, beq_iff_eq.mpr hoffer⟩
  rw [filter_review honce, hwaits] at hfound
  exact List.mem_singleton.mp hfound

/-- Of what waits, what is rejected for good is taken out. -/
theorem waiting?_dropRejected_review (honce : pending.Once) (offer : Offer) :
    (dropRejected (review verdict pending) pending).waiting? offer =
      (pending.waiting? offer).filter fun release => !(verdict release).isFinal := by
  rw [waiting?_dropRejected, ← List.any_filter, filter_review honce]
  cases pending.waiting? offer with
  | none => rfl
  | some release =>
    rw [Option.toList_some, List.map_singleton, List.any_cons, List.any_nil, Bool.or_false,
      Option.filter_some]
    cases (verdict release).isFinal <;> rfl

end

/-- Evaluating again is acting on one decision about each release, in some order, once what is rejected
for good is taken out. -/
theorem exists_trail_retry (setup : Setup σ) (now : Instant) (verdict : PendingRelease → Decision)
    (desk : Desk σ) :
    let decisions := review verdict desk.pending
    ∃ trail : List (GrabDecision × Fate), (trail.map (·.1)).Perm decisions ∧
      Trail setup now {} { desk with pending := dropRejected decisions desk.pending } trail
        (desk.retry setup now verdict).1 (desk.retry setup now verdict).2 := by
  intro decisions
  let dropped : Desk σ := { desk with pending := dropRejected decisions desk.pending }
  obtain ⟨trail, hdecisions, htrail⟩ :=
    dropped.exists_trail setup now (prioritize setup.store now decisions) {}
  refine ⟨trail, ?_, htrail⟩
  rw [hdecisions]
  exact prioritize_perm setup.store now decisions

/-- **What waits after an evaluation.**  Nothing is set aside that did not wait.  A release leaves if
something was grabbed for its media item or if it is rejected for good; any other one stays, for the
reason for which it is rejected now, or for the old one if it was to be grabbed and could not be. -/
theorem waiting?_retry {verdict : PendingRelease → Decision} (honce : desk.pending.Once)
    (setup : Setup σ) (now : Instant) (offer : Offer) :
    (desk.retry setup now verdict).2.pending.waiting? offer =
      (desk.pending.waiting? offer).bind fun release =>
        if (desk.retry setup now verdict).1.covers offer.1 || (verdict release).isFinal then none
        else some (release.decided (verdict release)) := by
  obtain ⟨trail, hperm, htrail⟩ := exists_trail_retry setup now verdict desk
  generalize (desk.retry setup now verdict).1 = report at htrail ⊢
  generalize (desk.retry setup now verdict).2 = after at htrail ⊢
  have hdropped : (dropRejected (review verdict desk.pending) desk.pending).waiting? offer =
      (desk.pending.waiting? offer).filter fun release => !(verdict release).isFinal :=
    waiting?_dropRejected_review honce offer
  cases hwaits : desk.pending.waiting? offer with
  | none =>
    -- no decision is about it
    rw [hwaits] at hdropped
    refine htrail.waiting?_of_none (fun decision hmem hoffer => ?_) hdropped
    exact absurd hoffer (offer_ne_of_not_waiting honce hwaits decision (hperm.mem_iff.mp hmem))
  | some release =>
    rw [hwaits, Option.filter_some] at hdropped
    rw [Option.bind_some]
    cases hcovers : report.covers offer.1 with
    | true =>
      -- something was grabbed for the media item
      have hnone : NoneCovered report after.pending := htrail.noneCovered fun _ _ => rfl
      exact hnone.waiting?_eq_none hcovers
    | false =>
      cases hfinal : (verdict release).isFinal with
      | true =>
        -- rejected for good, and by no decision set aside again
        rw [hfinal] at hdropped
        refine htrail.waiting?_of_none (fun decision hmem hoffer => ?_) hdropped
        have hsame := eq_of_waiting honce hwaits decision (hperm.mem_iff.mp hmem) hoffer
        rw [hsame]
        exact Decision.isTemporary_eq_false_of_isFinal hfinal
      | false =>
        -- of all decisions, one is about it
        rw [hfinal] at hdropped
        have hfilter : (trail.map (·.1)).filter (·.candidate.offer == offer) =
            [⟨release.candidate, verdict release⟩] := by
          refine List.perm_singleton.mp ((hperm.filter _).trans (List.Perm.of_eq ?_))
          rw [filter_review honce, hwaits]
          rfl
        rw [htrail.waiting?_of_some hcovers release hdropped, hfilter]
        rfl

theorem once_retry {verdict : PendingRelease → Decision} (honce : desk.pending.Once)
    (setup : Setup σ) (now : Instant) : (desk.retry setup now verdict).2.pending.Once := by
  obtain ⟨trail, -, htrail⟩ := exists_trail_retry setup now verdict desk
  have hdropped : (dropRejected (review verdict desk.pending) desk.pending).Once :=
    honce.sublist (dropRejected_sublist _ _)
  exact htrail.once hdropped

end Desk

end Acquisition
