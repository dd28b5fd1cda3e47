import Acquisition.Proofs.Broadcast.Debouncing

/-!
# Bursts are kept apart

A debouncer fires for bursts of changes, not for changes.  Whatever it fires for was reported
before and is forgotten as it fires: each change leaves at most one thing to fire for, and the end
of a pause only turns what is remembered into a window.  After firing no window is open, and one
that is opened later is open for its whole length before a poll fires again.

## Main definitions

* `DebouncerCall.madeAt?`: when a call counts as made.
* `Debouncer.firings`: how often calls say that a burst is over.
* `Debouncer.outstanding`: how much there is to fire for.
* `Debouncer.ShutUntil`: no open window closes before a given time.

## Main results

* `Debouncer.outstanding_run`: what is fired for and what is left to fire for was reported.
* `Debouncer.shutUntil_run`: after firing, a window is shut for its whole length.
* `Debouncer.coalesces`: **firings are spaced by windows, and no more than there are changes.**
-/

namespace Acquisition

namespace DebouncerCall

/-- The call reports a change. -/
def isTrigger : DebouncerCall → Bool
  | trigger _ => true
  | poll _ | flush | pause | resume _ => false

/-- When a call counts as made: one that does not look at the time counts at the latest time that a
call before it looked at. -/
def madeAt? (earlier : List DebouncerCall) (call : DebouncerCall) : Option Instant :=
  call.time?.or (earlier.filterMap time?).getLast?

/-- No call is made before the time. -/
def MadeFrom (start : Instant) (calls : List DebouncerCall) : Prop :=
  ∀ call ∈ calls, ∀ now, call.time? = some now → start ≤ now

/-- What is done after a call is not done before the time at which it counts as made. -/
theorem Timely.made_from {front back : List DebouncerCall} {call : DebouncerCall} {now : Instant}
    (h : Timely (front ++ call :: back)) (hmade : call.madeAt? front = some now) :
    MadeFrom now back := by
  intro other hother time htime
  have hback : time ∈ back.filterMap time? := List.mem_filterMap.mpr ⟨other, hother, htime⟩
  rw [Timely, List.filterMap_append] at h
  obtain ⟨-, hrest, hacross⟩ := List.pairwise_append.mp h
  cases hcall : call.time? with
  | some instant =>
    rw [madeAt?, hcall, Option.some_or, Option.some.injEq] at hmade
    subst hmade
    rw [List.filterMap_cons_some hcall] at hrest
    exact (List.pairwise_cons.mp hrest).1 time hback
  | none =>
    rw [madeAt?, hcall, Option.none_or] at hmade
    rw [List.filterMap_cons_none hcall] at hacross
    exact hacross now (List.mem_of_getLast? hmade) time hback

/-- Once a change was reported, every call counts as made at some time. -/
theorem exists_madeAt? {earlier : List DebouncerCall} (h : 0 < earlier.countP isTrigger)
    (call : DebouncerCall) : ∃ now, call.madeAt? earlier = some now := by
  obtain ⟨change, hmem, hchange⟩ := List.countP_pos_iff.mp h
  obtain ⟨instant, rfl⟩ : ∃ instant, change = .trigger instant := by
    cases change with
    | trigger instant => exact ⟨instant, rfl⟩
    | _ => exact absurd hchange Bool.false_ne_true
  have htimes : instant ∈ earlier.filterMap time? := List.mem_filterMap.mpr ⟨_, hmem, rfl⟩
  cases hcall : call.time? with
  | some now => exact ⟨now, by rw [madeAt?, hcall, Option.some_or]⟩
  | none =>
    refine ⟨(earlier.filterMap time?).getLast (List.ne_nil_of_mem htimes), ?_⟩
    rw [madeAt?, hcall, Option.none_or, List.getLast?_eq_some_getLast]

end DebouncerCall

namespace Debouncer

open DebouncerCall

variable {d : Debouncer} {call : DebouncerCall} {calls : List DebouncerCall}

/-! ### What there is to fire for -/

/-- How often the calls say that a burst is over. -/
def firings (d : Debouncer) : List DebouncerCall → Nat
  | [] => 0
  | call :: calls => (d.fires call).toNat + (d.after call).firings calls

/-- How much there is to fire for: an open window, and a change that is remembered. -/
def outstanding (d : Debouncer) : Nat :=
  d.deadline.isSome.toNat + d.deferred.toNat

@[simp] theorem outstanding_idle (window : Span) : (idle window).outstanding = 0 := rfl

@[simp] theorem opened_deferred (d : Debouncer) (now : Instant) :
    (d.opened now).2.deferred = d.deferred := by
  rw [opened]
  cases d.deadline <;> rfl

/-- Opening a window leaves at most one thing more to fire for. -/
theorem outstanding_opened_le (d : Debouncer) (now : Instant) :
    (d.opened now).2.outstanding ≤ d.outstanding + 1 := by
  simp only [outstanding, opened_deadline, opened_deferred, Option.isSome_some, Bool.toNat_true]
  omega

/-- **A call** that fires takes something away, and only a change adds something. -/
theorem outstanding_after (d : Debouncer) (call : DebouncerCall) :
    (d.after call).outstanding + (d.fires call).toNat ≤ d.outstanding + call.isTrigger.toNat := by
  cases call with
  | trigger now =>
    simp only [after, fires, trigger, isTrigger, Bool.toNat_true, Bool.toNat_false]
    split
    · simp only [outstanding, Bool.toNat_true]
      omega
    · exact d.outstanding_opened_le now
  | poll now =>
    simp only [after, fires, poll, isTrigger, Bool.toNat_false]
    cases hdeadline : d.deadline with
    | none => exact Nat.le_refl _
    | some deadline =>
      dsimp only
      split
      · -- the window is closed
        simp only [outstanding, hdeadline, Option.isSome_none, Option.isSome_some, Bool.toNat_false,
          Bool.toNat_true]
        omega
      · exact Nat.le_refl _
  | flush =>
    simp only [after, fires, flush, isTrigger, outstanding]
    cases d.deadline.isSome <;> cases d.deferred <;> decide
  | pause => exact Nat.le_refl _
  | resume now =>
    simp only [after, fires, resume, isTrigger, Bool.toNat_false]
    split
    next hlast =>
      -- the window that is opened takes the place of what was remembered
      have hdeferred : d.deferred = true := (Bool.and_eq_true_iff.mp hlast).2
      simp only [outstanding, opened_deadline, opened_deferred, hdeferred, Option.isSome_some,
        Bool.toNat_true, Bool.toNat_false]
      omega
    · exact Nat.le_refl _

/-- **What is fired for and what is left to fire for was reported**, or there was something to fire
for at the beginning. -/
theorem outstanding_run : ∀ (calls : List DebouncerCall) (d : Debouncer),
    (d.run calls).outstanding + d.firings calls ≤ d.outstanding + calls.countP isTrigger := by
  intro calls
  induction calls with
  | nil => exact fun d => Nat.le_refl _
  | cons call calls ih =>
    intro d
    have hcall := d.outstanding_after call
    have hrest := ih (d.after call)
    have hcount : (call :: calls).countP isTrigger =
        call.isTrigger.toNat + calls.countP isTrigger := by
      rw [List.countP_cons, Nat.add_comm]
      cases call.isTrigger <;> rfl
    rw [run_cons, firings, hcount]
    omega

theorem firings_idle_le (window : Span) (calls : List DebouncerCall) :
    (idle window).firings calls ≤ calls.countP isTrigger := by
  have hrun := outstanding_run calls (idle window)
  rw [outstanding_idle] at hrun
  omega

/-- Only what was reported is fired for. -/
theorem trigger_before_firing {window : Span} {earlier : List DebouncerCall}
    (hfires : ((idle window).run earlier).fires call = true) :
    0 < earlier.countP isTrigger := by
  have hcall := ((idle window).run earlier).outstanding_after call
  have hrun := outstanding_run earlier (idle window)
  have hnone : call.isTrigger = false := by
    cases call with
    | trigger now => exact absurd hfires Bool.false_ne_true
    | _ => rfl
  rw [hfires, hnone, Bool.toNat_true, Bool.toNat_false] at hcall
  rw [outstanding_idle] at hrun
  omega

/-! ### Windows are shut after firing -/

/-- No open window closes before the time. -/
def ShutUntil (d : Debouncer) (start : Instant) : Prop :=
  ∀ deadline, d.deadline = some deadline → start ≤ deadline

/-- After firing no window is open. -/
theorem deadline_of_fires (h : d.fires call = true) : (d.after call).deadline = none := by
  cases call with
  | trigger now | pause | resume now => exact absurd h Bool.false_ne_true
  | flush => rfl
  | poll now =>
    rw [fires, poll] at h
    rw [after, poll]
    cases hdeadline : d.deadline with
    | none =>
      rw [hdeadline] at h
      exact absurd h Bool.false_ne_true
    | some deadline =>
      rw [hdeadline] at h
      dsimp only at h ⊢
      split at h
      · rw [if_pos ‹_›]
      · exact absurd h Bool.false_ne_true

/-- A poll does not fire before an open window closes. -/
theorem ShutUntil.le_of_fires {start now : Instant} (h : d.ShutUntil start)
    (hfires : d.fires (.poll now) = true) : start ≤ now := by
  rw [fires, poll] at hfires
  cases hdeadline : d.deadline with
  | none =>
    rw [hdeadline] at hfires
    exact absurd hfires Bool.false_ne_true
  | some deadline =>
    rw [hdeadline] at hfires
    dsimp only at hfires
    split at hfires
    · exact Int.le_trans (h deadline hdeadline) ‹_›
    · exact absurd hfires Bool.false_ne_true

/-- **A window is shut for its whole length**: while calls are made from a time on, no window closes
before its length after that time. -/
theorem shutUntil_run {start : Instant} : ∀ {calls : List DebouncerCall} {d : Debouncer},
    d.ShutUntil (start + d.window) → MadeFrom start calls →
      (d.run calls).ShutUntil (start + d.window) := by
  intro calls
  induction calls with
  | nil => exact fun hshut _ => hshut
  | cons call calls ih =>
    intro d hshut hmade
    obtain ⟨hcall, hcalls⟩ := List.forall_mem_cons.mp hmade
    rw [run_cons, ← after_window d call]
    refine ih ?_ hcalls
    rw [after_window]
    intro deadline hdeadline
    rcases d.after_deadline_cases call with hsame | ⟨-, hnone⟩ | ⟨-, now, htime, hopened⟩
    · exact hshut deadline (hsame.symm.trans hdeadline)
    · rw [hnone] at hdeadline
      exact absurd hdeadline nofun
    · rw [hopened, Option.some.injEq] at hdeadline
      rw [← hdeadline]
      exact Int.add_le_add_right (hcall now htime) d.window

/-! ### The law -/

/-- **Firings are spaced by windows, and there are no more of them than changes.**  In every run of
a debouncer that was idle, a poll that fires is made a whole window after each earlier call that
fired, and the firings so far never outnumber the changes so far. -/
theorem coalesces (window : Span) {calls : List DebouncerCall} (htimely : Timely calls) :
    (∀ earlier call between time later,
        calls = earlier ++ call :: (between ++ .poll time :: later) →
        ((idle window).run earlier).fires call = true →
        ((idle window).run (earlier ++ call :: between)).fires (.poll time) = true →
        ∃ fired, call.madeAt? earlier = some fired ∧ fired + window ≤ time) ∧
      ∀ front, front <+: calls → (idle window).firings front ≤ front.countP isTrigger := by
  refine ⟨fun earlier call between time later hcalls hfires hpoll => ?_,
    fun front _ => firings_idle_le window front⟩
  obtain ⟨fired, hfired⟩ := exists_madeAt? (trigger_before_firing hfires) call
  refine ⟨fired, hfired, ?_⟩
  subst hcalls
  let d := ((idle window).run earlier).after call
  have hwindow : d.window = window := by
    rw [after_window, run_window]
    rfl
  have hbetween : MadeFrom fired between := fun other hother =>
    htimely.made_from hfired other (List.mem_append_left _ hother)
  -- the call that fired left no window open
  have hshut : d.ShutUntil (fired + d.window) := by
    intro deadline hdeadline
    rw [deadline_of_fires hfires] at hdeadline
    exact absurd hdeadline nofun
  have hlater := shutUntil_run hshut hbetween
  rw [run_append, run_cons] at hpoll
  rw [hwindow] at hlater
  exact hlater.le_of_fires hpoll

/-- A change before a pause, one during the pause, and what happens until both are announced. -/
def changeAcrossPause : List DebouncerCall :=
  [.trigger 0, .pause, .trigger 3, .poll 5, .resume 6, .poll 8, .poll 11]

/-- The two are announced a window apart. -/
theorem pause_spaces_changes :
    (∃ fired, madeAt? [.trigger 0, .pause, .trigger 3] (.poll 5) = some fired ∧
        fired + 5 ≤ 11) ∧
      (idle 5).firings changeAcrossPause ≤ 2 := by
  have htimely : Timely changeAcrossPause := by decide
  obtain ⟨hspaced, hcounted⟩ := coalesces 5 htimely
  refine ⟨?_, hcounted changeAcrossPause List.prefix_rfl⟩
  exact hspaced [.trigger 0, .pause, .trigger 3] (.poll 5) [.resume 6, .poll 8] 11 [] rfl
    (by decide) (by decide)

end Debouncer

end Acquisition
