import Acquisition.Events
import Acquisition.Queue.Pending

/-!
# The desk

Grabbing and the queue work on shared records: the history, the blocklist, the tracked downloads,
the pending releases, the events, and the download clients themselves.

## Main definitions

* `Setup`: what does not change while the program runs.
* `Desk`: what does.
-/

namespace Acquisition

/-- What a program is set up with, over download clients with the state `σ`. -/
structure Setup (σ : Type) where
  store : ProfileStore
  settings : DecisionSettings
  registry : ClientRegistry σ

/-- The records of a running program. -/
structure Desk (σ : Type) where
  /-- The state of the download clients. -/
  clients : σ
  history : History
  blocklist : Blocklist
  tracked : TrackedDownloads
  pending : PendingReleases
  events : EventLog
  /-- How often the observers of the queue were told of a change. -/
  notices : Nat

namespace Desk

variable {σ : Type}

/-- A desk on which nothing has happened yet. -/
def blank (clients : σ) : Desk σ :=
  { clients
    history := .empty
    blocklist := []
    tracked := .empty
    pending := .empty
    events := []
    notices := 0 }

/-- Tells the observers of the queue that it changed. -/
def notify (desk : Desk σ) : Desk σ :=
  { desk with notices := desk.notices + 1 }

/-- Writes a record into the history. -/
def record (desk : Desk σ) (entry : HistoryRecord) : Desk σ :=
  { desk with history := desk.history.append entry }

/-- Publishes an event. -/
def publish {α : Type} [Announcement α] (desk : Desk σ) (payload : α) (now : Instant) : Desk σ :=
  { desk with events := desk.events.publish payload now }

end Desk

end Acquisition
