import Acquisition.History

/-!
# The life of a download

A download has a status, which its client reports, and a state, which the history tells.

## Main definitions

* `QueueStatus`, `QueueStatus.canBecome`: the statuses and the steps between them.
* `TrackedState.ofEvent`: the state that follows from an event.
-/

namespace Acquisition

/-- The status of a download. -/
inductive QueueStatus
  | queued
  | downloading
  | paused
  | completed
  | failed
  | warning
  /-- Held back by a rule about time; no client reports it. -/
  | delay
  /-- Gone from the client, for good and out of sight. -/
  | deleted
  deriving DecidableEq, Repr, Inhabited

namespace QueueStatus

/-- All statuses. -/
def all : List QueueStatus :=
  [queued, downloading, paused, completed, failed, warning, delay, deleted]

/-- The word for a status. -/
def name : QueueStatus → String
  | queued => "queued"
  | downloading => "downloading"
  | paused => "paused"
  | completed => "completed"
  | failed => "failed"
  | warning => "warning"
  | delay => "delay"
  | deleted => "deleted"

/-- The status that a word stands for. -/
def ofName? (name : String) : Option QueueStatus :=
  all.find? (·.name == name)

/-- The statuses that follow on one, besides itself and deletion. -/
def successors : QueueStatus → List QueueStatus
  | queued => [downloading, paused, completed, failed, warning]
  | downloading => [paused, completed, failed, warning]
  | paused => [queued, downloading, failed]
  | warning => [downloading, completed, failed]
  | completed | failed | delay | deleted => []

/-- A download may go from the one status to the other: every status may stay and may be
deleted, and nothing follows on deletion. -/
def canBecome (status next : QueueStatus) : Bool :=
  status == next || (status != deleted && (next == deleted || status.successors.contains next))

/-- Nothing more is to be expected of the download. -/
def isTerminal : QueueStatus → Bool
  | completed | failed | deleted => true
  | _ => false

end QueueStatus

/-- What the history says about a download. -/
inductive TrackedState
  | downloading
  | imported
  | failed
  | ignored
  deriving DecidableEq, Repr, Inhabited

namespace TrackedState

/-- All states. -/
def all : List TrackedState := [downloading, imported, failed, ignored]

/-- The word for a state. -/
def name : TrackedState → String
  | downloading => "downloading"
  | imported => "imported"
  | failed => "failed"
  | ignored => "ignored"

/-- The state that a word stands for. -/
def ofName? (name : String) : Option TrackedState :=
  all.find? (·.name == name)

/-- The state of a download whose latest record is of the kind. -/
def ofEvent : HistoryEvent → TrackedState
  | .downloadFolderImported => imported
  | .downloadFailed => failed
  | .downloadIgnored => ignored
  | .grabbed | .fileDeleted => downloading

end TrackedState

end Acquisition
