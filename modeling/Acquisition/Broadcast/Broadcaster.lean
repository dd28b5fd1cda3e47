import Acquisition.Broadcast.Debouncer
import Acquisition.Json.Printer

/-!
# Broadcasting

A broadcaster tells everyone on a channel to look again, once for every burst of changes.
-/

namespace Acquisition

/-- A message on a channel. -/
structure Broadcast where
  channel : String
  payload : String
  deriving DecidableEq, Repr, Inhabited

/-- A channel with its debouncer and the messages that were sent. -/
structure Broadcaster where
  channel : String
  debouncer : Debouncer
  /-- The messages in the order in which they were sent. -/
  sent : List Broadcast
  deriving DecidableEq, Repr, Inhabited

namespace Broadcaster

/-- A broadcaster that has sent nothing. -/
def silent (channel : String) (window : Span) : Broadcaster :=
  ⟨channel, .idle window, []⟩

/-- The message to look again. -/
def syncPayload : String :=
  (Json.obj [("action", .str "sync")]).render

/-- Sends the message to look again. -/
def send (b : Broadcaster) : Broadcaster :=
  { b with sent := b.sent ++ [⟨b.channel, syncPayload⟩] }

/-- There was a change. -/
def notify (b : Broadcaster) (now : Instant) : Broadcaster :=
  { b with debouncer := (b.debouncer.trigger now).2 }

/-- Sends if a window closes; says whether it did. -/
def tick (b : Broadcaster) (now : Instant) : Bool × Broadcaster :=
  let (closed, debouncer) := b.debouncer.poll now
  let b := { b with debouncer }
  if closed then (true, b.send) else (false, b)

/-- Sends if anything is outstanding; says whether it did. -/
def flush (b : Broadcaster) : Bool × Broadcaster :=
  let (outstanding, debouncer) := b.debouncer.flush
  let b := { b with debouncer }
  if outstanding then (true, b.send) else (false, b)

/-- Puts a pause in force. -/
def pause (b : Broadcaster) : Broadcaster :=
  { b with debouncer := b.debouncer.pause }

/-- Ends a pause. -/
def resume (b : Broadcaster) (now : Instant) : Broadcaster :=
  { b with debouncer := b.debouncer.resume now }

end Broadcaster

end Acquisition
