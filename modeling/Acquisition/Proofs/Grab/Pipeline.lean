import Acquisition.Proofs.Grab.Ranking
import Acquisition.Proofs.Grab.Trail
import Acquisition.Proofs.Queue.Pending
import Mathlib.Data.List.Nodup

/-!
# The pipeline for a grab

What comes of a list of decisions: the report, the history, the log of events, the pending
releases and the clients all follow from the fates that the decisions meet, one after the other.

## Main definitions

* `attempts`: the fates of the accepted decisions of a media item, in order.
* `FirstTaken`: failures, until one is grabbed; then nothing is tried.
* `Settles`: how a trail, the report and the desk afterwards hang together.

## Main results

* `Trail.firstTaken`: of a media item, the first release that a client takes is grabbed.
* `Trail.keeps`: nothing that waits is lost, unless something was grabbed for its media item.
* `Desk.processDecisions_settles`: the pipeline settles every decision.
-/

namespace Acquisition

variable {σ : Type} {setup : Setup σ} {now : Instant} {decision : GrabDecision} {fate : Fate}
  {trail : List (GrabDecision × Fate)} {report report' : GrabReport} {desk desk' : Desk σ}
  {mediaId : MediaId}

/-! ### Grabs -/

theorem grabs_cons (settled : GrabDecision × Fate) (trail : List (GrabDecision × Fate)) :
    grabs (settled :: trail) = (grab? settled).toList ++ grabs trail := by
  rw [grabs, List.filterMap_cons]
  cases grab? settled with
  | none => rfl
  | some grab => rfl

theorem GrabReport.covers_iff :
    report.covers mediaId = true ↔ mediaId ∈ report.grabbed.map (·.1) := by
  simp [covers]

theorem GrabReport.covers_congr (h : report.grabbed = report'.grabbed) :
    report.covers = report'.covers := by
  funext mediaId
  rw [covers, covers, h]

theorem GrabReport.covers_append (report : GrabReport) (grab : Grab) (mediaId : MediaId) :
    GrabReport.covers { report with grabbed := report.grabbed ++ [grab.line] } mediaId =
      (report.covers mediaId || grab.candidate.media.id == mediaId) := by
  simp [covers, Grab.line]

/-! ### The report -/

theorem Acts.covers_mono (h : Acts setup now decision report desk fate report' desk')
    (hcovers : report.covers mediaId = true) : report'.covers mediaId = true := by
  cases h with
  | grabbed => rw [GrabReport.covers_append, hcovers, Bool.true_or]
  | _ => exact hcovers

theorem Acts.grabbed_eq (h : Acts setup now decision report desk fate report' desk') :
    report'.grabbed = report.grabbed ++ (grab? (decision, fate)).toList.map Grab.line := by
  cases h with
  | grabbed => rfl
  | _ => exact (List.append_nil _).symm

/-- A media item is reported at most once. -/
theorem Acts.nodup (h : Acts setup now decision report desk fate report' desk')
    (hnodup : (report.grabbed.map (·.1)).Nodup) : (report'.grabbed.map (·.1)).Nodup := by
  cases h with
  | grabbed haccepted hopen hsends =>
    -- what is reported now was not covered
    have hfresh : decision.candidate.media.id ∉ report.grabbed.map (·.1) := by
      rw [← GrabReport.covers_iff, hopen]
      exact Bool.false_ne_true
    rw [List.map_append, List.map_singleton, ← List.concat_eq_append]
    exact hnodup.concat hfresh
  | _ => exact hnodup

theorem Acts.counts (h : Acts setup now decision report desk fate report' desk') :
    report'.failed = report.failed + [fate].countP (·.isFailed) ∧
      report'.pending = report.pending + [fate].count .held ∧
      report'.rejected = report.rejected + [fate].count .rejected := by
  cases h with
  | _ => exact ⟨rfl, rfl, rfl⟩

namespace Trail

theorem covers_mono (h : Trail setup now report desk trail report' desk') :
    report.covers mediaId = true → report'.covers mediaId = true := by
  induction h with
  | nil => exact id
  | cons step _ ih => exact fun hcovers => ih (step.covers_mono hcovers)

/-- What is not covered in the end never was. -/
theorem covers_eq_false (h : Trail setup now report desk trail report' desk')
    (hopen : report'.covers mediaId = false) : report.covers mediaId = false := by
  rw [← Bool.not_eq_true] at hopen ⊢
  exact fun hcovers => hopen (h.covers_mono hcovers)

theorem grabbed_eq (h : Trail setup now report desk trail report' desk') :
    report'.grabbed = report.grabbed ++ (grabs trail).map Grab.line := by
  induction h with
  | nil => exact (List.append_nil _).symm
  | cons step _ ih =>
    rw [ih, step.grabbed_eq, grabs_cons, List.map_append, List.append_assoc]

theorem nodup (h : Trail setup now report desk trail report' desk') :
    (report.grabbed.map (·.1)).Nodup → (report'.grabbed.map (·.1)).Nodup := by
  induction h with
  | nil => exact id
  | cons step _ ih => exact fun hnodup => ih (step.nodup hnodup)

theorem counts (h : Trail setup now report desk trail report' desk') :
    report'.failed = report.failed + (trail.map (·.2)).countP (·.isFailed) ∧
      report'.pending = report.pending + (trail.map (·.2)).count .held ∧
      report'.rejected = report.rejected + (trail.map (·.2)).count .rejected := by
  induction h with
  | nil => exact ⟨rfl, rfl, rfl⟩
  | @cons _ fate trail _ _ _ _ _ _ step _ ih =>
    obtain ⟨hfailed, hpending, hrejected⟩ := step.counts
    have hsplit : (fate :: trail.map (·.2)) = [fate] ++ trail.map (·.2) := rfl
    rw [List.map_cons, hsplit, List.countP_append, List.count_append, List.count_append]
    omega

end Trail

/-- Every decision is grabbed, failed, passed over, set aside or rejected. -/
theorem length_eq_of_fates (trail : List (GrabDecision × Fate)) :
    trail.length = (grabs trail).length + (trail.map (·.2)).countP (·.isFailed) +
      (trail.map (·.2)).count .held + (trail.map (·.2)).count .rejected +
      (trail.map (·.2)).count .passed := by
  induction trail with
  | nil => rfl
  | cons settled trail ih =>
    obtain ⟨decision, fate⟩ := settled
    rw [List.length_cons, ih, grabs_cons, List.length_append]
    cases fate <;> simp [grab?, Fate.isFailed] <;> omega

/-! ### The desk -/

theorem Acts.records (h : Acts setup now decision report desk fate report' desk') :
    desk'.history.records =
        desk.history.records ++ (grab? (decision, fate)).toList.map (·.record now) ∧
      desk'.events = desk.events ++ (grab? (decision, fate)).toList.map (·.event now) := by
  cases h with
  | grabbed => exact ⟨rfl, rfl⟩
  | _ => exact ⟨(List.append_nil _).symm, (List.append_nil _).symm⟩

theorem Acts.frame (h : Acts setup now decision report desk fate report' desk') :
    desk'.blocklist = desk.blocklist ∧ desk'.tracked = desk.tracked ∧
      desk'.notices = desk.notices := by
  cases h with
  | _ => exact ⟨rfl, rfl, rfl⟩

namespace Trail

/-- Every grab is written down and announced, in order, and nothing else is. -/
theorem records (h : Trail setup now report desk trail report' desk') :
    desk'.history.records = desk.history.records ++ (grabs trail).map (·.record now) ∧
      desk'.events = desk.events ++ (grabs trail).map (·.event now) := by
  induction h with
  | nil => exact ⟨(List.append_nil _).symm, (List.append_nil _).symm⟩
  | cons step _ ih =>
    obtain ⟨hhistory, hevents⟩ := step.records
    rw [ih.1, ih.2, hhistory, hevents, grabs_cons, List.map_append, List.map_append,
      List.append_assoc, List.append_assoc]
    exact ⟨rfl, rfl⟩

theorem frame (h : Trail setup now report desk trail report' desk') :
    desk'.blocklist = desk.blocklist ∧ desk'.tracked = desk.tracked ∧
      desk'.notices = desk.notices := by
  induction h with
  | nil => exact ⟨rfl, rfl, rfl⟩
  | cons step _ ih =>
    obtain ⟨hblocklist, htracked, hnotices⟩ := step.frame
    exact ⟨ih.1.trans hblocklist, ih.2.1.trans htracked, ih.2.2.trans hnotices⟩

theorem replay (h : Trail setup now report desk trail report' desk') :
    Replay setup.registry desk.clients trail desk'.clients := by
  induction h with
  | nil => exact .nil _
  | cons step _ ih =>
    cases step with
    | grabbed haccepted hopen hsends => exact .sent hsends ih
    | failed haccepted hopen hsends => exact .sent hsends ih
    | passed => exact .unsent rfl ih
    | held => exact .unsent rfl ih
    | rejected => exact .unsent rfl ih

end Trail

/-! ### The decisions of one media item -/

/-- The fates of the accepted decisions of a media item, in order. -/
def attempts (mediaId : MediaId) (trail : List (GrabDecision × Fate)) : List Fate :=
  (trail.filter fun settled =>
    settled.1.decision.isAccepted && settled.1.candidate.media.id == mediaId).map (·.2)

/-- Failures, until one is grabbed; then nothing is tried. -/
inductive FirstTaken : List Fate → Prop
  | none : FirstTaken []
  | failed {error : GrabError} {fates : List Fate} (rest : FirstTaken fates) :
    FirstTaken (.failed error :: fates)
  | taken {client downloadId : String} {fates : List Fate}
      (rest : ∀ fate ∈ fates, fate = .passed) : FirstTaken (.grabbed client downloadId :: fates)

theorem attempts_cons_of_ne (fate : Fate) (trail : List (GrabDecision × Fate))
    (h : ¬ (decision.decision.isAccepted = true ∧ decision.candidate.media.id = mediaId)) :
    attempts mediaId ((decision, fate) :: trail) = attempts mediaId trail := by
  rw [attempts, List.filter_cons_of_neg (by simpa using h), attempts]

theorem attempts_cons_of_accepted (fate : Fate) (trail : List (GrabDecision × Fate))
    (h : decision.decision.isAccepted = true) :
    attempts decision.candidate.media.id ((decision, fate) :: trail) =
      fate :: attempts decision.candidate.media.id trail := by
  rw [attempts, List.filter_cons_of_pos (by simp [h]), List.map_cons, attempts]

/-- Once something is grabbed for a media item, nothing else is tried for it. -/
theorem Acts.fate_eq_passed (h : Acts setup now decision report desk fate report' desk')
    (haccepted : decision.decision.isAccepted = true)
    (hcovers : report.covers decision.candidate.media.id = true) : fate = .passed := by
  cases h with
  | grabbed _ hopen => rw [hcovers] at hopen; exact absurd hopen.symm Bool.false_ne_true
  | failed _ hopen => rw [hcovers] at hopen; exact absurd hopen.symm Bool.false_ne_true
  | passed => rfl
  | held hdecision => rw [hdecision] at haccepted; exact absurd haccepted Bool.false_ne_true
  | rejected hfinal =>
    rw [Decision.isFinal_eq_false_of_isAccepted haccepted] at hfinal
    exact absurd hfinal Bool.false_ne_true

namespace Trail

theorem attempts_passed (h : Trail setup now report desk trail report' desk') :
    report.covers mediaId = true → ∀ fate ∈ attempts mediaId trail, fate = .passed := by
  induction h with
  | nil => exact fun _ fate hmem => absurd hmem List.not_mem_nil
  | @cons decision fate trail _ _ _ _ _ _ step _ ih =>
    intro hcovers
    have hrest := ih (step.covers_mono hcovers)
    by_cases hmine : decision.decision.isAccepted = true ∧ decision.candidate.media.id = mediaId
    · obtain ⟨haccepted, rfl⟩ := hmine
      rw [attempts_cons_of_accepted _ _ haccepted]
      exact List.forall_mem_cons.mpr ⟨step.fate_eq_passed haccepted hcovers, hrest⟩
    · rwa [attempts_cons_of_ne _ _ hmine]

/-- **Of a media item, the first release that a client takes is grabbed.** -/
theorem firstTaken (h : Trail setup now report desk trail report' desk') :
    report.covers mediaId = false → FirstTaken (attempts mediaId trail) := by
  induction h with
  | nil => exact fun _ => .none
  | @cons decision fate trail _ _ _ _ _ _ step rest ih =>
    intro hopen
    by_cases hmine : decision.decision.isAccepted = true ∧ decision.candidate.media.id = mediaId
    · obtain ⟨haccepted, rfl⟩ := hmine
      rw [attempts_cons_of_accepted _ _ haccepted]
      cases step with
      | grabbed => exact .taken (rest.attempts_passed (by simp [GrabReport.covers_append]))
      | failed => exact .failed (ih hopen)
      | passed _ hcovers => rw [hopen] at hcovers; exact absurd hcovers Bool.false_ne_true
      | held hdecision => rw [hdecision] at haccepted; exact absurd haccepted Bool.false_ne_true
      | rejected hfinal =>
        rw [Decision.isFinal_eq_false_of_isAccepted haccepted] at hfinal
        exact absurd hfinal Bool.false_ne_true
    · rw [attempts_cons_of_ne _ _ hmine]
      cases step with
      | grabbed haccepted =>
        -- a grab for another media item leaves this one open
        refine ih ?_
        rw [GrabReport.covers_append, hopen, Bool.false_or, beq_eq_false_iff_ne]
        exact fun hmedia => hmine ⟨haccepted, hmedia⟩
      | _ => exact ih hopen

end Trail

/-! ### What waits -/

/-- Nothing waits for a media item for which something was grabbed. -/
def NoneCovered (report : GrabReport) (pending : PendingReleases) : Prop :=
  ∀ release ∈ pending.releases, report.covers release.candidate.media.id = false

theorem Acts.noneCovered (h : Acts setup now decision report desk fate report' desk')
    (hnone : NoneCovered report desk.pending) : NoneCovered report' desk'.pending := by
  intro release hmem
  cases h with
  | grabbed =>
    obtain ⟨hold, hmedia⟩ := PendingReleases.mem_removeForMedia.mp hmem
    rw [GrabReport.covers_append, hnone release hold, Bool.false_or, beq_eq_false_iff_ne]
    exact hmedia.symm
  | held _ _ hopen =>
    rcases PendingReleases.media_of_mem_add hmem with hnew | ⟨old, hold, hmedia⟩
    · exact hnew ▸ hopen
    · exact hmedia ▸ hnone old hold
  | _ => exact hnone release hmem

theorem Acts.keeps (h : Acts setup now decision report desk fate report' desk') :
    PendingReleases.Keeps (report'.covers · = false) desk.pending desk'.pending := by
  cases h with
  | grabbed =>
    refine (PendingReleases.removeForMedia_keeps _ _).mono fun mediaId hopen hmedia => ?_
    rw [GrabReport.covers_append, hmedia, beq_self_eq_true, Bool.or_true] at hopen
    exact absurd hopen Bool.true_eq_false.mp
  | held => exact PendingReleases.add_keeps _ _ _ _ _
  | _ => exact .refl _ _

namespace Trail

theorem noneCovered (h : Trail setup now report desk trail report' desk') :
    NoneCovered report desk.pending → NoneCovered report' desk'.pending := by
  induction h with
  | nil => exact id
  | cons step _ ih => exact fun hnone => ih (step.noneCovered hnone)

/-- **Nothing that waits is lost**, unless something was grabbed for its media item. -/
theorem keeps (h : Trail setup now report desk trail report' desk') :
    PendingReleases.Keeps (report'.covers · = false) desk.pending desk'.pending := by
  induction h with
  | nil => exact .refl _ _
  | cons step rest ih => exact (step.keeps.mono fun _ hopen => rest.covers_eq_false hopen).trans ih

/-- What is set aside waits in the end, unless something was grabbed for its media item. -/
theorem holds (h : Trail setup now report desk trail report' desk') :
    ∀ settled ∈ trail, settled.2 = .held →
      report'.covers settled.1.candidate.media.id = false →
      desk'.pending.Holds settled.1.candidate := by
  induction h with
  | nil => exact fun settled hmem => absurd hmem List.not_mem_nil
  | cons step rest ih =>
    refine List.forall_mem_cons.mpr ⟨?_, ih⟩
    rintro rfl hopen
    cases step with
    | held => exact rest.keeps.holds (PendingReleases.add_holds _ _ _ _) hopen

/-- Where nothing is accepted, the fates depend only on what was grabbed before. -/
theorem fate_of_rejected (h : Trail setup now report desk trail report' desk') :
    (∀ settled ∈ trail, settled.1.decision.isAccepted = false) →
      report'.grabbed = report.grabbed ∧ ∀ settled ∈ trail, settled.2 =
        if settled.1.decision.isFinal then .rejected
        else if report.covers settled.1.candidate.media.id then .passed else .held := by
  induction h with
  | nil => exact fun _ => ⟨rfl, fun settled hmem => absurd hmem List.not_mem_nil⟩
  | @cons decision fate _ report report₁ _ _ _ _ step _ ih =>
    intro hrejected
    obtain ⟨hfirst, hrest⟩ := List.forall_mem_cons.mp hrejected
    obtain ⟨hgrabbed, hfates⟩ := ih hrest
    have hstep : report₁.grabbed = report.grabbed ∧ fate =
        if decision.decision.isFinal then .rejected
        else if report.covers decision.candidate.media.id then .passed else .held := by
      cases step with
      | grabbed haccepted => rw [hfirst] at haccepted; exact absurd haccepted Bool.false_ne_true
      | failed haccepted => rw [hfirst] at haccepted; exact absurd haccepted Bool.false_ne_true
      | passed hlasting hcovers => simp [hlasting, hcovers]
      | held _ htemporary hopen =>
        simp [Decision.isFinal_eq_false_of_isTemporary htemporary, hopen]
      | rejected hfinal => simp [hfinal]
    rw [GrabReport.covers_congr hstep.1] at hfates
    exact ⟨hgrabbed.trans hstep.1, List.forall_mem_cons.mpr ⟨hstep.2, hfates⟩⟩

/-- In the order of priority all grabs are made before the first decision that is not accepted, so
that what was grabbed in the end decides its fate. -/
theorem fate_of_prioritized {store : ProfileStore} {decisions : List GrabDecision}
    (h : Trail setup now report desk trail report' desk')
    (hdecisions : trail.map (·.1) = prioritize store now decisions) :
    ∀ settled ∈ trail, settled.1.decision.isAccepted = false → settled.2 =
      if settled.1.decision.isFinal then .rejected
      else if report'.covers settled.1.candidate.media.id then .passed else .held := by
  rw [prioritize_eq, List.map_eq_append_iff] at hdecisions
  obtain ⟨front, back, rfl, hfront, hback⟩ := hdecisions
  have haccepted : ∀ settled ∈ front, settled.1.decision.isAccepted = true := by
    intro settled hmem
    have hmem : settled.1 ∈ front.map (·.1) := List.mem_map_of_mem hmem
    rw [hfront] at hmem
    exact isAccepted_of_mem_bestFirst hmem
  have hothers : ∀ settled ∈ back, settled.1.decision.isAccepted = false := by
    intro settled hmem
    have hmem : settled.1 ∈ back.map (·.1) := List.mem_map_of_mem hmem
    rw [hback, List.mem_filter, Bool.not_eq_true'] at hmem
    exact hmem.2
  obtain ⟨middle, desk₁, -, hrest⟩ := h.of_append
  obtain ⟨hgrabbed, hfates⟩ := hrest.fate_of_rejected hothers
  rw [GrabReport.covers_congr hgrabbed]
  intro settled hmem hdecision
  rcases List.mem_append.mp hmem with hmem | hmem
  · rw [haccepted settled hmem] at hdecision
    exact absurd hdecision.symm Bool.false_ne_true
  · exact hfates settled hmem

end Trail

/-! ### The pipeline -/

/-- How the fates of decisions, the report and the desk before and after hang together. -/
structure Settles (setup : Setup σ) (now : Instant) (before : Desk σ)
    (trail : List (GrabDecision × Fate)) (report : GrabReport) (after : Desk σ) : Prop where
  /-- Clients took what was grabbed, and did not take what failed. -/
  clients : Replay setup.registry before.clients trail after.clients
  /-- The accepted decisions of a media item fail until one is grabbed, and the others are passed
  over. -/
  accepted : ∀ mediaId, FirstTaken (attempts mediaId trail)
  /-- The others are rejected for good, passed over or set aside. -/
  rejected : ∀ settled ∈ trail, settled.1.decision.isAccepted = false → settled.2 =
    if settled.1.decision.isFinal then .rejected
    else if report.covers settled.1.candidate.media.id then .passed else .held
  /-- A media item is reported at most once. -/
  once : (report.grabbed.map (·.1)).Nodup
  /-- The grabs are reported, written down and announced, in order. -/
  reported : report.grabbed = (grabs trail).map Grab.line
  recorded : after.history.records = before.history.records ++ (grabs trail).map (·.record now)
  announced : after.events = before.events ++ (grabs trail).map (·.event now)
  /-- The counts are those of the fates, and they add up. -/
  failed : report.failed = (trail.map (·.2)).countP (·.isFailed)
  pending : report.pending = (trail.map (·.2)).count .held
  refused : report.rejected = (trail.map (·.2)).count .rejected
  total : trail.length = report.grabbed.length + report.failed + report.pending +
    report.rejected + (trail.map (·.2)).count .passed
  /-- Nothing waits for what was grabbed; what is set aside for anything else waits. -/
  dropped : NoneCovered report after.pending
  waits : ∀ settled ∈ trail, settled.1.decision.isTemporary = true →
    report.covers settled.1.candidate.media.id = false →
    after.pending.Holds settled.1.candidate
  kept : PendingReleases.Keeps (report.covers · = false) before.pending after.pending
  /-- Nothing else changes. -/
  frame : after.blocklist = before.blocklist ∧ after.tracked = before.tracked ∧
    after.notices = before.notices

end Acquisition
