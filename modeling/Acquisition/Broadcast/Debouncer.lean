import Acquisition.Time.Span

/-!
# Debouncing

Changes come in bursts.  The first change opens a window of time, and the burst is over when the
window closes; further changes in between are part of it.  While the debouncer is paused no
window opens, but that there was a change is remembered.

## Main definitions

* `Debouncer`: the state; `trigger`, `poll`, `flush`, `pause`, `resume`: its steps.
-/

namespace Acquisition

/-- The state of a debouncer. -/
structure Debouncer where
  /-- How long a window stays open. -/
  window : Span
  /-- When the open window closes, if one is open. -/
  deadline : Option Instant
  /-- How many pauses are in force. -/
  paused : Nat
  /-- There was a change during a pause. -/
  deferred : Bool
  deriving DecidableEq, Repr, Inhabited

namespace Debouncer

/-- A debouncer with no window open. -/
def idle (window : Span) : Debouncer := ⟨window, none, 0, false⟩

/-- Opens a window, unless one is open; says whether it did. -/
def opened (d : Debouncer) (now : Instant) : Bool × Debouncer :=
  match d.deadline with
  | none => (true, { d with deadline := some (now + d.window) })
  | some _ => (false, d)

/-- There was a change; says whether it opened a window. -/
def trigger (d : Debouncer) (now : Instant) : Bool × Debouncer :=
  if 0 < d.paused then (false, { d with deferred := true }) else d.opened now

/-- Closes the window if its time has come; says whether it did. -/
def poll (d : Debouncer) (now : Instant) : Bool × Debouncer :=
  match d.deadline with
  | some deadline => if deadline ≤ now then (true, { d with deadline := none }) else (false, d)
  | none => (false, d)

/-- Closes the window and forgets remembered changes; says whether there was either. -/
def flush (d : Debouncer) : Bool × Debouncer :=
  (d.deferred || d.deadline.isSome, { d with deadline := none, deferred := false })

/-- Puts a pause in force. -/
def pause (d : Debouncer) : Debouncer :=
  { d with paused := d.paused + 1 }

/-- Ends a pause; when none is left, a remembered change opens a window. -/
def resume (d : Debouncer) (now : Instant) : Debouncer :=
  let d := { d with paused := d.paused - 1 }
  if d.paused == 0 && d.deferred then ({ d with deferred := false }.opened now).2 else d

end Debouncer

end Acquisition
