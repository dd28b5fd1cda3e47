import Acquisition.Schedule.Job

/-!
# Registered jobs

The jobs of a program with their schedules, in the order of their identifiers.
-/

namespace Acquisition

/-- When a job runs. -/
inductive Schedule
  /-- At once, and again after every interval of so many seconds. -/
  | every (seconds : Nat)
  /-- At once and never again. -/
  | once
  deriving DecidableEq, Repr, Inhabited

/-- The milliseconds between two runs; an interval has at least one second. -/
def Schedule.period? : Schedule → Option Nat
  | every seconds => some (1000 * max seconds 1)
  | once => none

/-- A job with its identifier and its schedule. -/
structure ScheduledJob (σ : Type) where
  id : String
  job : Job σ
  schedule : Schedule

/-- The jobs of a program. -/
structure JobRegistry (σ : Type) where
  /-- The jobs in the order of their identifiers, each of which stands once. -/
  jobs : List (ScheduledJob σ)
  /-- How many jobs may run at the same time. -/
  slots : Nat

namespace JobRegistry

variable {σ : Type}

/-- No jobs; at least one may run at a time. -/
def withSlots (slots : Nat) : JobRegistry σ :=
  ⟨[], max slots 1⟩

/-- Puts a job in its place; one with the same identifier gives way. -/
def insertJob (entry : ScheduledJob σ) : List (ScheduledJob σ) → List (ScheduledJob σ)
  | [] => [entry]
  | first :: rest =>
    match compare entry.id first.id with
    | .lt => entry :: first :: rest
    | .eq => entry :: rest
    | .gt => first :: insertJob entry rest

/-- The registry with one job more. -/
def register (registry : JobRegistry σ) (id : String) (job : Job σ) (schedule : Schedule) :
    JobRegistry σ :=
  { registry with jobs := insertJob ⟨id, job, schedule⟩ registry.jobs }

/-- The identifiers of the jobs. -/
def ids (registry : JobRegistry σ) : List String :=
  registry.jobs.map (·.id)

end JobRegistry

end Acquisition
