import Acquisition.Schedule.Registry

/-!
# Jobs in time

What the registered jobs do from the moment they are started.  Every job has a task of its own,
which waits for its next tick, then for one of the slots, and keeps the slot through all attempts
and the pauses between them.  Slots are given out first come, first served.  A task that missed
ticks makes up for one of them at once and goes on with the next one that is still to come.

Time is counted in milliseconds from the start.  Nothing happens between two moments, so the
timeline steps from one moment to the next: tasks whose time has come are ready in the order in
which they began to wait, and a ready task acts until it has to wait again.

## Main definitions

* `Task`, `Timeline`: where the jobs stand.
* `Timeline.act`: one action of a task.
* `JobRegistry.runFor`: everything that happens in a span of time.
-/

namespace Acquisition

/-! ### Tasks -/

/-- What a task does when it is its turn. -/
inductive Phase
  /-- A tick is due. -/
  | tick
  /-- An attempt begins; the task has a slot. -/
  | attempt (number : Nat)
  /-- An attempt ends. -/
  | settle (number : Nat) (result : JobResult)
  deriving DecidableEq, Repr, Inhabited

/-- A registered job under way. -/
structure Task (σ : Type) where
  entry : ScheduledJob σ
  /-- When the next tick is due. -/
  nextTick : Nat
  phase : Phase

namespace Task

variable {σ : Type}

/-- A task at its start. -/
def start (entry : ScheduledJob σ) : Task σ := ⟨entry, 0, .tick⟩

/-- When the tick after the present one is due: the next whole number of periods after it that
is still to come. -/
def tickAfter (task : Task σ) (now period : Nat) : Nat :=
  now + period - (now - task.nextTick) % period

/-- The task after a tick. -/
def ticked (task : Task σ) (now : Nat) : Task σ :=
  { task with
    phase := .attempt 1
    nextTick := (task.entry.schedule.period?.map (task.tickAfter now)).getD task.nextTick }

/-- How often the task can act at one moment, at most. -/
def actionBound (task : Task σ) : Nat :=
  4 * task.entry.job.policy.maxAttempts + 8

end Task

/-! ### The timeline -/

/-- A run that began. -/
structure RunRecord where
  /-- When it began. -/
  time : Nat
  job : String
  attempt : Nat
  outcome : JobOutcome
  deriving Repr, Inhabited

/-- Where the jobs stand at a moment. -/
structure Timeline (σ : Type) where
  /-- The tasks whose turn it is. -/
  ready : List (Task σ)
  /-- The tasks that wait for a moment to come, in the order in which they began to wait. -/
  asleep : List (Nat × Task σ)
  /-- The tasks that wait for a slot, in the order in which they came. -/
  waiting : List (Task σ)
  /-- The slots that nobody has. -/
  free : Nat
  /-- The runs that began, latest first. -/
  runs : List RunRecord
  /-- What the jobs work on. -/
  world : σ

namespace Timeline

variable {σ : Type}

/-- Lets a task go on at a later moment, or at once if that moment is not later. -/
def resumeAt (timeline : Timeline σ) (now due : Nat) (task : Task σ) : Timeline σ :=
  if due ≤ now then { timeline with ready := task :: timeline.ready }
  else { timeline with asleep := timeline.asleep ++ [(due, task)] }

/-- Gives a task a slot, or has it wait for one. -/
def acquire (timeline : Timeline σ) (task : Task σ) : Timeline σ :=
  if 0 < timeline.free then
    { timeline with free := timeline.free - 1, ready := task :: timeline.ready }
  else { timeline with waiting := timeline.waiting ++ [task] }

/-- Takes a slot back and gives it to the first task that waits. -/
def release (timeline : Timeline σ) : Timeline σ :=
  match timeline.waiting with
  | [] => { timeline with free := timeline.free + 1 }
  | first :: rest => { timeline with waiting := rest, ready := timeline.ready ++ [first] }

/-- One action of a task whose turn it is. -/
def act (timeline : Timeline σ) (now : Nat) (task : Task σ) : Timeline σ :=
  let job := task.entry.job
  match task.phase with
  | .tick => timeline.acquire (task.ticked now)
  | .attempt number =>
    let (outcome, world) := job.run number timeline.world
    let run : RunRecord := ⟨now, task.entry.id, number, outcome⟩
    let task := { task with phase := .settle number (job.policy.settle outcome) }
    { timeline with world, runs := run :: timeline.runs }.resumeAt now (now + job.duration) task
  | .settle number result =>
    if job.policy.triesAgain number result then
      timeline.resumeAt now (now + 1000 * job.policy.delaySeconds)
        { task with phase := .attempt (number + 1) }
    else
      let timeline := timeline.release
      match task.entry.schedule with
      | .once => timeline
      | .every _ => timeline.resumeAt now task.nextTick { task with phase := .tick }

/-- The next moment at which a task goes on. -/
def nextMoment? (timeline : Timeline σ) : Option Nat :=
  (timeline.asleep.map (·.1)).min?

/-- Wakes the tasks whose moment has come. -/
def wake (timeline : Timeline σ) (now : Nat) : Timeline σ :=
  let (due, asleep) := timeline.asleep.partition (·.1 ≤ now)
  { timeline with asleep, ready := timeline.ready ++ due.map (·.2) }

/-- Acts, and steps from moment to moment, until the end, at most `fuel` times. -/
def runUntil (finish : Nat) : Nat → Nat → Timeline σ → Timeline σ
  | 0, _, timeline => timeline
  | fuel + 1, now, timeline =>
    match timeline.ready with
    | task :: ready => runUntil finish fuel now ({ timeline with ready }.act now task)
    | [] =>
      match timeline.nextMoment? with
      | some moment =>
        if moment < finish then runUntil finish fuel moment (timeline.wake moment) else timeline
      | none => timeline

end Timeline

/-! ### Running a registry -/

namespace JobRegistry

variable {σ : Type}

/-- The timeline at its start. -/
def start (registry : JobRegistry σ) (world : σ) : Timeline σ where
  ready := registry.jobs.map .start
  asleep := []
  waiting := []
  free := registry.slots
  runs := []
  world

/-- How many steps a timeline can take before an end, at most: at every moment, the actions of
all tasks and the step to the next moment. -/
def stepBound (registry : JobRegistry σ) (finish : Nat) : Nat :=
  finish * registry.jobs.foldl (fun n entry => n + (Task.start entry).actionBound) 1

/-- The runs that begin before an end, by time and identifier, and what they leave behind.
Nothing happens in no time. -/
def runFor (registry : JobRegistry σ) (finish : Nat) (world : σ) : List RunRecord × σ :=
  if finish == 0 then ([], world)
  else
    let timeline := (registry.start world).runUntil finish (registry.stepBound finish) 0
    let runs := timeline.runs.reverse.mergeSort fun a b =>
      (compare a.time b.time).then (compare a.job b.job) != .gt
    (runs, timeline.world)

end JobRegistry

end Acquisition
