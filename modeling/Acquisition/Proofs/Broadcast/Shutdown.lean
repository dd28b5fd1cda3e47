import Acquisition.Broadcast.Broadcaster
import Acquisition.Proofs.Broadcast.Debouncing

/-!
# Changes at the shutdown

A tick of a broadcaster takes two steps: it polls the debouncer, and if a window closes it waits for
its message to go out.  The debouncer forgets the burst in the first step.  A shutdown that comes
between the two gives up the tick that waits, and the flush behind it finds only what was reported
since.

So every change is announced but for those that a tick took with it: a shutdown between the steps
loses them, unless a message went out meanwhile or there is something else to flush.

## Main definitions

* `Airing`, `AiringStep`: a broadcaster at work, and what may happen to it.
* `Airing.shutdown`: the tick that waits is given up, and what is outstanding is sent.
* `Airing.Announces`: a message goes out before the shutdown is over.

## Main results

* `Airing.step_poll_deliver`: the two steps, one right after the other, are a tick.
* `Airing.Owes.run`: a change is outstanding or taken by a tick until a message goes out.
* `Airing.announces_at_shutdown_iff`: when a change is announced.
-/

namespace Acquisition

namespace Debouncer

/-- Right after a change there is something to flush. -/
theorem fires_flush_after_trigger (d : Debouncer) (now : Instant) :
    (d.after (.trigger now)).fires .flush = true := by
  rw [fires_flush_iff, after, trigger]
  split
  · exact Or.inl rfl
  · exact Or.inr (by rw [opened_deadline, Option.isSome_some])

/-- What there is to flush is still there after a poll that does not fire. -/
theorem fires_flush_after_poll {d : Debouncer} {now : Instant} (h : d.fires .flush = true)
    (hquiet : (d.poll now).1 = false) : (d.poll now).2.fires .flush = true := by
  have hpoll : d.Quiet [.poll now] := ⟨hquiet, trivial⟩
  exact fires_flush_run h hpoll

end Debouncer

/-! ### A broadcaster at work -/

/-- A broadcaster at work. -/
structure Airing where
  broadcaster : Broadcaster
  /-- What the clock shows. -/
  now : Instant
  /-- A tick waits for its message to go out. -/
  waiting : Bool
  deriving DecidableEq, Repr

/-- What may happen to a broadcaster at work. -/
inductive AiringStep
  /-- There was a change. -/
  | change
  /-- Time goes by. -/
  | elapse (nanoseconds : Nat)
  /-- The first step of a tick: it asks whether a window closes. -/
  | poll
  /-- The second step of a tick: its message went out. -/
  | deliver
  deriving DecidableEq, Repr

namespace Airing

/-- A broadcaster that has sent nothing. -/
def silent (channel : String) (window : Span) (now : Instant) : Airing :=
  ⟨.silent channel window, now, false⟩

/-- What comes of a step.  Ticks do not overlap: while one waits, no other begins. -/
def step (airing : Airing) : AiringStep → Airing
  | .change => { airing with broadcaster := airing.broadcaster.notify airing.now }
  | .elapse nanoseconds => { airing with now := airing.now + nanoseconds }
  | .poll =>
    if airing.waiting then airing
    else
      let (closed, debouncer) := airing.broadcaster.debouncer.poll airing.now
      { airing with broadcaster := { airing.broadcaster with debouncer }, waiting := closed }
  | .deliver =>
    if airing.waiting then { airing with broadcaster := airing.broadcaster.send, waiting := false }
    else airing

/-- What comes of steps, one after the other. -/
def run (airing : Airing) (steps : List AiringStep) : Airing :=
  steps.foldl step airing

/-- The end: the tick that waits is given up, and what is outstanding is sent. -/
def shutdown (airing : Airing) : Airing :=
  { airing with broadcaster := airing.broadcaster.flush.2, waiting := false }

/-- How many messages went out. -/
def sent (airing : Airing) : Nat :=
  airing.broadcaster.sent.length

/-- There is something to flush. -/
def isOutstanding (airing : Airing) : Bool :=
  airing.broadcaster.debouncer.fires .flush

/-- A message goes out in the steps or in the shutdown that follows them. -/
def Announces (airing : Airing) (later : List AiringStep) : Prop :=
  airing.sent < (airing.run later).shutdown.sent

instance (airing : Airing) (later : List AiringStep) : Decidable (airing.Announces later) :=
  inferInstanceAs (Decidable (_ < _))

variable {airing : Airing}

/-- **The two steps, one right after the other, are a tick.** -/
theorem step_poll_deliver (h : airing.waiting = false) :
    ((airing.step .poll).step .deliver).broadcaster =
      (airing.broadcaster.tick airing.now).2 := by
  simp only [step, h, Broadcaster.tick]
  cases (airing.broadcaster.debouncer.poll airing.now).1 <;> rfl

/-- **The shutdown** sends a message exactly if there is something to flush. -/
theorem sent_shutdown (airing : Airing) :
    airing.shutdown.sent = airing.sent + airing.isOutstanding.toNat := by
  have hflush : airing.isOutstanding = airing.broadcaster.debouncer.flush.1 := rfl
  simp only [shutdown, sent, Broadcaster.flush, hflush]
  cases airing.broadcaster.debouncer.flush.1 with
  | true => exact List.length_append
  | false => rfl

/-! ### What is owed after a change -/

/-- After so many messages there was a change: another message went out, or a tick took the change
with it, or it is outstanding. -/
structure Owes (count : Nat) (airing : Airing) : Prop where
  sent_le : count ≤ airing.sent
  owed : count < airing.sent ∨ airing.waiting = true ∨ airing.isOutstanding = true

namespace Owes

variable {count : Nat}

/-- A change is owed from the beginning. -/
theorem change (airing : Airing) : Owes (airing.step .change).sent (airing.step .change) where
  sent_le := Nat.le_refl _
  owed := Or.inr (Or.inr (airing.broadcaster.debouncer.fires_flush_after_trigger airing.now))

/-- **What a step does to a change**: a poll that fires hands it over to its tick, and a tick only
lets go of it by sending a message. -/
theorem step (h : Owes count airing) (step : AiringStep) : Owes count (airing.step step) := by
  cases step with
  | change =>
    exact ⟨h.sent_le,
      Or.inr (Or.inr (airing.broadcaster.debouncer.fires_flush_after_trigger airing.now))⟩
  | elapse nanoseconds => exact ⟨h.sent_le, h.owed⟩
  | poll =>
    rw [Airing.step]
    split
    · exact h
    next hwaiting =>
      refine ⟨h.sent_le, ?_⟩
      rcases h.owed with hsent | htaken | houtstanding
      · exact Or.inl hsent
      · exact absurd htaken hwaiting
      · cases hclosed : (airing.broadcaster.debouncer.poll airing.now).1 with
        | true => exact Or.inr (Or.inl hclosed)
        | false =>
          exact Or.inr (Or.inr (Debouncer.fires_flush_after_poll houtstanding hclosed))
  | deliver =>
    rw [Airing.step]
    split
    · have hmore : ({ airing with
          broadcaster := airing.broadcaster.send, waiting := false } : Airing).sent =
            airing.sent + 1 := List.length_append
      have hle := h.sent_le
      refine ⟨?_, Or.inl ?_⟩ <;> rw [hmore] <;> omega
    · exact h

/-- Nothing that may happen makes a change be forgotten. -/
theorem run : ∀ {steps : List AiringStep} {airing : Airing}, Owes count airing →
    Owes count (airing.run steps) := by
  intro steps
  induction steps with
  | nil => exact id
  | cons step steps ih => exact fun h => ih (h.step step)

end Owes

/-! ### When a change is announced -/

/-- **When a change is announced**: exactly if a message goes out before the shutdown, or no tick
waits when the shutdown comes, or there is something to flush by then. -/
theorem announces_at_shutdown_iff (channel : String) (window : Span) (start : Instant)
    (earlier later : List AiringStep) :
    let changed := ((silent channel window start).run earlier).step .change
    let last := changed.run later
    changed.Announces later ↔
      changed.sent < last.sent ∨ last.waiting = false ∨ last.isOutstanding = true := by
  intro changed last
  have howes : Owes changed.sent last := (Owes.change _).run
  have hle := howes.sent_le
  have hshutdown := last.sent_shutdown
  have hannounces : changed.Announces later ↔ changed.sent < last.shutdown.sent := Iff.rfl
  rw [hannounces, hshutdown]
  cases houtstanding : last.isOutstanding with
  | true =>
    rw [Bool.toNat_true]
    exact iff_of_true (by omega) (Or.inr (Or.inr rfl))
  | false =>
    rw [Bool.toNat_false, Nat.add_zero]
    refine ⟨Or.inl, fun h => ?_⟩
    -- nothing is left to flush, so that a change that no message followed was taken by a tick
    rcases howes.owed with hsent | hwaiting | hflush
    · exact hsent
    · rcases h with hsent | hnone | hfalse
      · exact hsent
      · rw [hwaiting] at hnone
        exact absurd hnone nofun
      · exact absurd hfalse Bool.false_ne_true
    · rw [houtstanding] at hflush
      exact absurd hflush Bool.false_ne_true

/-- A change may be lost: the shutdown comes between the two steps of the tick that took it. -/
theorem not_announces_at_shutdown : ¬ ∀ (channel : String) (window : Span) (start : Instant)
    (earlier later : List AiringStep),
    (((silent channel window start).run earlier).step .change).Announces later := by
  intro hannounces
  have hlost := hannounces "queue" 5 0 [] [.elapse 5, .poll]
  exact absurd hlost (by decide)

end Airing

end Acquisition
