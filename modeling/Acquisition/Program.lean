import Acquisition.Broadcast.Broadcaster
import Acquisition.Grab.Service
import Acquisition.Queue.Service
import Acquisition.Schedule.Timeline

/-!
# The running program

A desk, a broadcaster that listens to the queue, and the jobs that keep both going: the download
clients are polled, the pending releases are evaluated again, and the broadcaster is given a
chance to send.

## Main definitions

* `Program`, `Program.act`: everything that changes, and work on the desk that is listened to.
* `Program.refreshJob`, `Program.pendingJob`, `Program.broadcastJob`: the jobs.
* `Program.registerJobs`, `Program.runFor`, `Program.shutdown`: start, run and end.
-/

namespace Acquisition

/-- Everything that changes while the program runs. -/
structure Program (σ : Type) where
  desk : Desk σ
  broadcaster : Broadcaster
  /-- The jobs are registered, and the broadcaster hears of changes of the queue. -/
  registered : Bool

namespace Program

variable {σ : Type}

/-- A program before it starts. -/
def idle (desk : Desk σ) (debounce : Span) : Program σ :=
  ⟨desk, .silent "queue" debounce, false⟩

/-- Works on the desk.  A broadcaster that listens hears of the notices that this gives rise to;
those of one moment count as one change. -/
def act {α : Type} (now : Instant) (work : Desk σ → α × Desk σ) (program : Program σ) :
    α × Program σ :=
  let (result, desk) := work program.desk
  let heard := program.registered && desk.notices != program.desk.notices
  let broadcaster :=
    if heard then program.broadcaster.notify now else program.broadcaster
  (result, { program with desk, broadcaster })

/-! ### The jobs -/

/-- What a refresh counts as. -/
def refreshResult (report : RefreshReport) : JobResult :=
  if report.polled == 0 then .skipped "no download clients configured"
  else if report.failed == report.polled then
    .failure "every download client failed to respond" true
  else .success

/-- Polls the download clients. -/
def refreshJob (setup : Setup σ) (now : Instant) : Job (Program σ) where
  type := "refresh_queue"
  name := "Refresh Queue"
  policy := { maxRetries := 1, delaySeconds := 10 }
  duration := 0
  run _ program :=
    let (report, program) := program.act now (Desk.refresh setup now)
    (.ok (refreshResult report), program)

/-- Evaluates the pending releases again. -/
def pendingJob (setup : Setup σ) (now : Instant) : Job (Program σ) where
  type := "process_pending_releases"
  name := "Process Pending Releases"
  policy := .single
  duration := 0
  run _ program := (.ok .success, (program.act now (Desk.processPending setup now)).2)

/-- Gives the broadcaster a chance to send. -/
def broadcastJob (now : Instant) : Job (Program σ) where
  type := "broadcast_queue"
  name := "Broadcast Queue"
  policy := .single
  duration := 0
  run _ program :=
    (.ok .success, { program with broadcaster := (program.broadcaster.tick now).2 })

/-- All jobs. -/
def jobs (setup : Setup σ) (settings : SchedulerSettings) (now : Instant) :
    JobRegistry (Program σ) :=
  (((JobRegistry.withSlots settings.maxConcurrentJobs).register "refresh-queue"
    (refreshJob setup now) (.every settings.queueRefreshSeconds)).register
    "process-pending-releases" (pendingJob setup now)
    (.every settings.pendingReleaseSeconds)).register
    "broadcast-queue" (broadcastJob now) (.every settings.broadcastTickSeconds)

/-! ### Start, run and end -/

/-- Registers the jobs and lets the broadcaster listen; the answer lists the jobs. -/
def registerJobs (setup : Setup σ) (settings : SchedulerSettings) (now : Instant)
    (program : Program σ) : List String × Program σ :=
  ((jobs setup settings now).ids, { program with registered := true })

/-- Sends what is outstanding. -/
def shutdown (program : Program σ) : Program σ :=
  { program with broadcaster := program.broadcaster.flush.2 }

/-- Runs the registered jobs for so many milliseconds, during which the clock stands still, and
shuts down. -/
def runFor (setup : Setup σ) (settings : SchedulerSettings) (now : Instant) (millis : Nat)
    (program : Program σ) : Program σ :=
  if program.registered then ((jobs setup settings now).runFor millis program).2.shutdown
  else program.shutdown

end Program

end Acquisition
