import Acquisition.Broadcast.Debouncer

/-!
# No change is lost

A change opens a window, falls into one that is open, or is remembered until the last pause ends.
Each way it stays outstanding until the debouncer fires: nothing but firing closes a window or
forgets a change.  An open window never closes later than its length after the latest call, so the
change is announced in time.

## Main definitions

* `DebouncerCall`: what is asked of a debouncer; `Debouncer.after`, `Debouncer.run`: what it
  becomes.
* `Debouncer.fires`: the call says that a burst is over; `Debouncer.Quiet`: none of the calls does.
* `Debouncer.Due`: a window is open and closes by a given time.
* `Debouncer.Held`: a change is remembered.

## Main results

* `Debouncer.deadline_le_of_run`: no window is open longer than it may.
* `Debouncer.Due.run`, `Debouncer.Held.run`: what is outstanding stays so while nothing fires.
* `Debouncer.loses_no_change`: **every change is announced, and in time.**
-/

namespace Acquisition

/-! ### Calls -/

/-- What is asked of a debouncer.  Flushing and pausing do not look at the time. -/
inductive DebouncerCall
  | trigger (now : Instant)
  | poll (now : Instant)
  | flush
  | pause
  | resume (now : Instant)
  deriving DecidableEq, Repr

namespace DebouncerCall

/-- The time at which the call is made, if it looks at the time. -/
def time? : DebouncerCall → Option Instant
  | trigger now | poll now | resume now => some now
  | flush | pause => none

/-- The calls are made one after the other. -/
def Timely (calls : List DebouncerCall) : Prop :=
  (calls.filterMap time?).Pairwise (· ≤ ·)

instance (calls : List DebouncerCall) : Decidable (Timely calls) :=
  inferInstanceAs (Decidable (List.Pairwise _ _))

/-- No call is made after the time. -/
def MadeBy (limit : Instant) (calls : List DebouncerCall) : Prop :=
  ∀ call ∈ calls, ∀ now, call.time? = some now → now ≤ limit

/-- What was done before a call was not done after its time. -/
theorem Timely.made_by {front back : List DebouncerCall} {call : DebouncerCall} {now : Instant}
    (h : Timely (front ++ call :: back)) (hcall : call.time? = some now) : MadeBy now front := by
  rw [Timely, List.filterMap_append, List.filterMap_cons_some hcall] at h
  intro other hmem time htime
  exact (List.pairwise_append.mp h).2.2 time (List.mem_filterMap.mpr ⟨other, hmem, htime⟩) now
    List.mem_cons_self

end DebouncerCall

namespace Debouncer

open DebouncerCall

/-- What the debouncer is after a call. -/
def after (d : Debouncer) : DebouncerCall → Debouncer
  | .trigger now => (d.trigger now).2
  | .poll now => (d.poll now).2
  | .flush => d.flush.2
  | .pause => d.pause
  | .resume now => d.resume now

/-- The call says that a burst is over. -/
def fires (d : Debouncer) : DebouncerCall → Bool
  | .poll now => (d.poll now).1
  | .flush => d.flush.1
  | .trigger _ | .pause | .resume _ => false

/-- What the debouncer is after calls, one after the other. -/
def run (d : Debouncer) (calls : List DebouncerCall) : Debouncer :=
  calls.foldl after d

/-- None of the calls says that a burst is over. -/
def Quiet (d : Debouncer) : List DebouncerCall → Prop
  | [] => True
  | call :: calls => d.fires call = false ∧ (d.after call).Quiet calls

instance Quiet.decidable : ∀ (calls : List DebouncerCall) (d : Debouncer), Decidable (d.Quiet calls)
  | [], _ => inferInstanceAs (Decidable True)
  | call :: calls, d =>
    have := Quiet.decidable calls (d.after call)
    inferInstanceAs (Decidable (_ ∧ _))

/-- A pause is in force before, between and after the calls. -/
def PausedThrough (d : Debouncer) : List DebouncerCall → Prop
  | [] => 0 < d.paused
  | call :: calls => 0 < d.paused ∧ (d.after call).PausedThrough calls

instance PausedThrough.decidable : ∀ (calls : List DebouncerCall) (d : Debouncer),
    Decidable (d.PausedThrough calls)
  | [], _ => inferInstanceAs (Decidable (_ < _))
  | call :: calls, d =>
    have := PausedThrough.decidable calls (d.after call)
    inferInstanceAs (Decidable (_ ∧ _))

variable {d : Debouncer} {call : DebouncerCall} {calls front back : List DebouncerCall}

@[simp] theorem run_nil (d : Debouncer) : d.run [] = d := rfl

@[simp] theorem run_cons (d : Debouncer) (call : DebouncerCall) (calls : List DebouncerCall) :
    d.run (call :: calls) = (d.after call).run calls := rfl

theorem run_append (d : Debouncer) (front back : List DebouncerCall) :
    d.run (front ++ back) = (d.run front).run back :=
  List.foldl_append

theorem PausedThrough.paused_pos (h : d.PausedThrough calls) : 0 < d.paused := by
  cases calls with
  | nil => exact h
  | cons call calls => exact h.1

theorem quiet_append_iff : d.Quiet (front ++ back) ↔ d.Quiet front ∧ (d.run front).Quiet back := by
  induction front generalizing d with
  | nil => exact (and_iff_right trivial).symm
  | cons call front ih => rw [List.cons_append, Quiet, Quiet, ih, and_assoc, run_cons]

/-! ### The window -/

@[simp] theorem opened_window (d : Debouncer) (now : Instant) :
    (d.opened now).2.window = d.window := by
  rw [opened]
  cases d.deadline <;> rfl

/-- A window that is open closes as it was to; one that is opened closes after its length. -/
theorem opened_deadline (d : Debouncer) (now : Instant) :
    (d.opened now).2.deadline = some (d.deadline.getD (now + d.window)) := by
  rw [opened]
  cases hdeadline : d.deadline with
  | none => rfl
  | some deadline => exact hdeadline

/-- The length of a window never changes. -/
@[simp] theorem after_window (d : Debouncer) (call : DebouncerCall) :
    (d.after call).window = d.window := by
  cases call with
  | trigger now =>
    rw [after, trigger]
    split
    · rfl
    · exact opened_window d now
  | poll now =>
    rw [after, poll]
    repeat' split
    all_goals rfl
  | flush => rfl
  | pause => rfl
  | resume now =>
    rw [after, resume]
    split
    · exact opened_window _ now
    · rfl

theorem run_window (d : Debouncer) (calls : List DebouncerCall) :
    (d.run calls).window = d.window := by
  induction calls generalizing d with
  | nil => rfl
  | cons call calls ih => rw [run_cons, ih, after_window]

/-- **What a call does to the window**: it leaves it as it is, closes it by firing, or opens one
where none was open. -/
theorem after_deadline_cases (d : Debouncer) (call : DebouncerCall) :
    (d.after call).deadline = d.deadline ∨
      (d.fires call = true ∧ (d.after call).deadline = none) ∨
      (d.deadline = none ∧ ∃ now, call.time? = some now ∧
        (d.after call).deadline = some (now + d.window)) := by
  cases call with
  | trigger now =>
    rw [after, trigger]
    split
    · exact Or.inl rfl
    · rw [opened_deadline]
      cases hdeadline : d.deadline with
      | none => exact Or.inr (Or.inr ⟨rfl, now, rfl, rfl⟩)
      | some deadline => exact Or.inl rfl
  | poll now =>
    rw [after, fires, poll]
    cases hdeadline : d.deadline with
    | none => exact Or.inl hdeadline
    | some deadline =>
      dsimp only
      split
      · exact Or.inr (Or.inl ⟨rfl, rfl⟩)
      · exact Or.inl hdeadline
  | flush =>
    rw [after, fires, flush]
    cases hdeadline : d.deadline with
    | none => exact Or.inl rfl
    | some deadline => exact Or.inr (Or.inl ⟨Bool.or_true _, rfl⟩)
  | pause => exact Or.inl rfl
  | resume now =>
    rw [after, resume]
    split
    · rw [opened_deadline]
      cases hdeadline : d.deadline with
      | none => exact Or.inr (Or.inr ⟨rfl, now, rfl, rfl⟩)
      | some deadline => exact Or.inl rfl
    · exact Or.inl rfl

/-- **No window is open longer than it may**: it closes its length after the latest call. -/
theorem deadline_le_of_run {limit : Instant} : ∀ {calls : List DebouncerCall} {d : Debouncer},
    (∀ deadline, d.deadline = some deadline → deadline ≤ limit + d.window) →
      MadeBy limit calls → ∀ deadline, (d.run calls).deadline = some deadline →
        deadline ≤ limit + d.window := by
  intro calls
  induction calls with
  | nil => exact fun hopen _ => hopen
  | cons call calls ih =>
    intro d hopen hmade
    obtain ⟨hcall, hcalls⟩ := List.forall_mem_cons.mp hmade
    rw [run_cons, ← after_window d call]
    refine ih ?_ hcalls
    rw [after_window]
    rcases d.after_deadline_cases call with hsame | ⟨-, hnone⟩ | ⟨-, now, htime, hopened⟩
    · rwa [hsame]
    · rw [hnone]
      exact fun deadline h => nomatch h
    · rw [hopened]
      rintro deadline ⟨⟩
      exact Int.add_le_add_right (hcall now htime) d.window

/-! ### What is outstanding -/

/-- A window is open and closes by the time. -/
def Due (d : Debouncer) (limit : Instant) : Prop :=
  ∃ deadline, d.deadline = some deadline ∧ deadline ≤ limit

/-- A change is remembered while a pause is in force. -/
def Held (d : Debouncer) : Prop :=
  0 < d.paused ∧ d.deferred = true

/-- A window that is opened closes after its length, and one that is open does not close later. -/
theorem opened_due {now : Instant}
    (hopen : ∀ deadline, d.deadline = some deadline → deadline ≤ now + d.window) :
    (d.opened now).2.Due (now + d.window) := by
  refine ⟨d.deadline.getD (now + d.window), opened_deadline d now, ?_⟩
  cases hdeadline : d.deadline with
  | none => exact Int.le_refl _
  | some deadline => exact hopen deadline hdeadline

namespace Due

variable {limit now : Instant}

/-- A poll after the time fires. -/
theorem poll (h : d.Due limit) (hlimit : limit ≤ now) : d.fires (.poll now) = true := by
  obtain ⟨deadline, hdeadline, hle⟩ := h
  have hclosed : deadline ≤ now := Int.le_trans hle hlimit
  simp only [fires, Debouncer.poll, hdeadline, if_pos hclosed]

/-- A window stays open until something fires. -/
theorem after (h : d.Due limit) (hquiet : d.fires call = false) : (d.after call).Due limit := by
  obtain ⟨deadline, hdeadline, hle⟩ := h
  rcases d.after_deadline_cases call with hsame | ⟨hfires, -⟩ | ⟨hnone, -⟩
  · exact ⟨deadline, hsame.trans hdeadline, hle⟩
  · rw [hquiet] at hfires
    exact absurd hfires Bool.false_ne_true
  · rw [hnone] at hdeadline
    exact absurd hdeadline nofun

theorem run : ∀ {calls : List DebouncerCall} {d : Debouncer}, d.Due limit → d.Quiet calls →
    (d.run calls).Due limit := by
  intro calls
  induction calls with
  | nil => exact fun h _ => h
  | cons call calls ih => exact fun h hquiet => ih (h.after hquiet.1) hquiet.2

end Due

namespace Held

/-- A pause that is not the last ends without any other effect. -/
theorem resume_of_lt {now : Instant} (hpaused : 1 < d.paused) :
    d.resume now = { d with paused := d.paused - 1 } := by
  have hleft : (d.paused - 1 == 0) = false := beq_eq_false_iff_ne.mpr (by omega)
  simp only [resume, hleft, Bool.false_and]
  rfl

/-- The last pause ends by opening a window for what is remembered. -/
theorem resume_of_le {now : Instant} (h : d.Held) (hpaused : d.paused ≤ 1) :
    d.resume now = ({ d with paused := 0, deferred := false }.opened now).2 := by
  have hnone : d.paused - 1 = 0 := by omega
  simp only [resume, hnone, h.2]
  rfl

/-- What is remembered is so until something fires or the last pause ends. -/
theorem after (h : d.Held) (hquiet : d.fires call = false) (hpaused : 0 < (d.after call).paused) :
    (d.after call).Held := by
  refine ⟨hpaused, ?_⟩
  cases call with
  | trigger now => rw [Debouncer.after, trigger, if_pos h.1]
  | poll now =>
    rw [Debouncer.after, Debouncer.poll]
    repeat' split
    all_goals exact h.2
  | flush =>
    rw [fires, flush, h.2, Bool.true_or] at hquiet
    exact absurd hquiet nofun
  | pause => exact h.2
  | resume now =>
    rw [Debouncer.after] at hpaused ⊢
    rcases Nat.lt_or_ge 1 d.paused with hlt | hle
    · rw [resume_of_lt hlt]
      exact h.2
    · -- no pause would be left
      rw [h.resume_of_le hle, opened] at hpaused
      cases hdeadline : d.deadline <;> rw [hdeadline] at hpaused <;> exact absurd hpaused nofun

/-- While a pause is in force throughout, nothing that is remembered is forgotten. -/
theorem run : ∀ {calls : List DebouncerCall} {d : Debouncer}, d.Held → d.Quiet calls →
    d.PausedThrough calls → (d.run calls).Held := by
  intro calls
  induction calls with
  | nil => exact fun h _ _ => h
  | cons call calls ih =>
    exact fun h hquiet hpaused => ih (h.after hquiet.1 hpaused.2.paused_pos) hquiet.2 hpaused.2

/-- **The end of the last pause** opens a window for what is remembered, unless one is open that
closes earlier. -/
theorem due {now : Instant} (h : d.Held) (hend : (d.resume now).paused = 0)
    (hopen : ∀ deadline, d.deadline = some deadline → deadline ≤ now + d.window) :
    (d.resume now).Due (now + d.window) := by
  have hlast : d.paused ≤ 1 := by
    refine Nat.not_lt.mp fun hlt => ?_
    rw [resume_of_lt hlt] at hend
    exact Nat.ne_of_gt (Nat.sub_pos_of_lt hlt) hend
  rw [h.resume_of_le hlast]
  exact opened_due hopen

end Held

/-- Something is outstanding for a flush if a change is remembered or a window is open. -/
theorem fires_flush_iff :
    d.fires .flush = true ↔ d.deferred = true ∨ d.deadline.isSome = true := by
  rw [fires, flush, Bool.or_eq_true]

/-- What is remembered stays so, or a window is opened for it, until something fires. -/
theorem deferred_after (h : d.deferred = true) (hquiet : d.fires call = false) :
    (d.after call).deferred = true ∨ (d.after call).deadline.isSome = true := by
  cases call with
  | trigger now =>
    rw [after, trigger]
    split
    · exact Or.inl rfl
    · exact Or.inr (by rw [opened_deadline]; rfl)
  | poll now =>
    left
    rw [after, poll]
    repeat' split
    all_goals exact h
  | flush =>
    rw [fires, flush, h, Bool.true_or] at hquiet
    exact absurd hquiet nofun
  | pause => exact Or.inl h
  | resume now =>
    rw [after, resume]
    split
    · exact Or.inr (by rw [opened_deadline]; rfl)
    · exact Or.inl h

/-- What a flush would announce stays to be announced until something fires. -/
theorem fires_flush_run : ∀ {calls : List DebouncerCall} {d : Debouncer},
    d.fires .flush = true → d.Quiet calls → (d.run calls).fires .flush = true := by
  intro calls
  induction calls with
  | nil => exact fun h _ => h
  | cons call calls ih =>
    rintro d h ⟨hquiet, hrest⟩
    refine ih ?_ hrest
    rw [fires_flush_iff] at h ⊢
    rcases h with hdeferred | hopen
    · exact deferred_after hdeferred hquiet
    · obtain ⟨deadline, hdeadline⟩ := Option.isSome_iff_exists.mp hopen
      obtain ⟨later, hlater, -⟩ := Due.after ⟨deadline, hdeadline, Int.le_refl _⟩ hquiet
      exact Or.inr (Option.isSome_iff_exists.mpr ⟨later, hlater⟩)

/-! ### A change -/

/-- A change while no pause is in force is due one length of a window later. -/
theorem due_after_trigger {now : Instant} (hpaused : d.paused = 0)
    (hopen : ∀ deadline, d.deadline = some deadline → deadline ≤ now + d.window) :
    (d.after (.trigger now)).Due (now + d.window) := by
  rw [after, trigger, if_neg (by omega)]
  exact opened_due hopen

/-- A change while a pause is in force is remembered. -/
theorem held_after_trigger (now : Instant) (hpaused : 0 < d.paused) :
    (d.after (.trigger now)).Held := by
  rw [after, trigger, if_pos hpaused]
  exact ⟨hpaused, rfl⟩

/-- In a run of a debouncer that was idle, no window is open longer than it may. -/
theorem deadline_le_of_idle (window : Span) {limit : Instant} (hmade : MadeBy limit calls) :
    ∀ deadline, ((idle window).run calls).deadline = some deadline →
      deadline ≤ limit + ((idle window).run calls).window := by
  rw [run_window]
  exact deadline_le_of_run (fun deadline h => nomatch h) hmade

/-- **Every change is announced, and in time.**  Until something fires after a change, a flush would
fire; so would a poll one length of a window after the change, if no pause was in force, and else
one length of a window after the end of the last pause.  Calls at one time count in the order in
which they are made. -/
theorem loses_no_change (window : Span) {earlier later : List DebouncerCall} {now : Instant}
    (htimely : Timely (earlier ++ .trigger now :: later)) :
    let d := (idle window).run earlier
    let changed := d.after (.trigger now)
    changed.Quiet later →
      (changed.run later).fires .flush = true ∧
      (d.paused = 0 → ∀ time, now + window ≤ time →
        (changed.run later).fires (.poll time) = true) ∧
      (0 < d.paused → ∀ waiting ending rest, later = waiting ++ .resume ending :: rest →
        changed.PausedThrough waiting → ((changed.run waiting).resume ending).paused = 0 →
          ∀ time, ending + window ≤ time → (changed.run later).fires (.poll time) = true) := by
  intro d changed hquiet
  have hwindow : d.window = window := run_window (idle window) earlier
  have hopen : ∀ deadline, d.deadline = some deadline → deadline ≤ now + d.window :=
    deadline_le_of_idle window (htimely.made_by rfl)
  refine ⟨?_, fun hpaused time hle => ?_,
    fun hpaused waiting ending rest hlater hthrough hlast time hle => ?_⟩
  · refine fires_flush_run (fires_flush_iff.mpr ?_) hquiet
    rcases Nat.eq_zero_or_pos d.paused with hpaused | hpaused
    · obtain ⟨deadline, hdeadline, -⟩ := due_after_trigger hpaused hopen
      exact Or.inr (Option.isSome_iff_exists.mpr ⟨deadline, hdeadline⟩)
    · exact Or.inl (held_after_trigger now hpaused).2
  · rw [← hwindow] at hle
    exact ((due_after_trigger hpaused hopen).run hquiet).poll hle
  · subst hlater
    obtain ⟨hwaiting, hrest⟩ := quiet_append_iff.mp hquiet
    have hheld := (held_after_trigger now hpaused).run hwaiting hthrough
    -- what was called before the end of the pause was called no later
    rw [← List.cons_append, ← List.append_assoc] at htimely
    have hmade := htimely.made_by rfl
    have hrun : (idle window).run (earlier ++ .trigger now :: waiting) = changed.run waiting := by
      rw [run_append, run_cons]
    have hopen := deadline_le_of_idle window hmade
    rw [hrun] at hopen
    have hlength : (changed.run waiting).window = window := by
      rw [run_window, after_window, hwindow]
    have hdue := hheld.due hlast hopen
    rw [hlength] at hdue
    rw [run_append, run_cons]
    exact (hdue.run hrest.2).poll hle

/-- A change during two nested pauses, and what happens until its window closes. -/
def nestedPauses : List DebouncerCall :=
  [.pause, .resume 3, .trigger 3, .resume 4, .poll 8]

/-- The change is announced when the window that the end of the pauses opened closes. -/
theorem nested_change_announced :
    let changed := ((idle 5).run [.pause]).after (.trigger 1)
    (changed.run nestedPauses).fires .flush = true ∧
      (changed.run nestedPauses).fires (.poll 9) = true := by
  have htimely : Timely ([.pause] ++ .trigger 1 :: nestedPauses) := by decide
  obtain ⟨hflush, -, hpoll⟩ := loses_no_change 5 htimely (by decide)
  exact ⟨hflush, hpoll (by decide) [.pause, .resume 3, .trigger 3] 4 [.poll 8] rfl (by decide) rfl 9
    (by decide)⟩

end Debouncer

end Acquisition
