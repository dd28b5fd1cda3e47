import Acquisition.Text.Quoted

/-!
# Jobs

A job is work that is done again and again.  A run of it may ask to be tried once more, and its
policy says how often and after how long.

## Main definitions

* `JobResult`, `JobOutcome`: how a run ends.
* `RetryPolicy`: how often a job is tried.
* `Job`, `Job.perform`: a job over the state `σ`, and all its attempts one after the other.
-/

namespace Acquisition

/-- What a run of a job reports. -/
inductive JobResult
  | success
  /-- There was nothing to do. -/
  | skipped (reason : String)
  | failure (error : String) (retry : Bool)
  deriving DecidableEq, Repr, Inhabited

/-- What comes of a run: a report, or the text of an error that broke it off. -/
abbrev JobOutcome := Except String JobResult

/-! ### Retries -/

/-- How often a job is tried. -/
structure RetryPolicy where
  /-- The job may be tried again. -/
  retriable : Bool := true
  /-- The attempts after the first, counted in words of 32 bits. -/
  maxRetries : UInt32 := 3
  /-- The seconds between two attempts. -/
  delaySeconds : Nat := 60
  deriving DecidableEq, Repr, Inhabited

namespace RetryPolicy

/-- The policy of a job that is never tried again. -/
def single : RetryPolicy := { retriable := false }

/-- The number of attempts in all.  The program counts them in words of 32 bits and breaks off where
there is one too many for these; this does not follow it there. -/
def maxAttempts (policy : RetryPolicy) : Nat :=
  if policy.retriable then (policy.maxRetries + 1).toNat else 1

/-- The result that an outcome counts as: a run that broke off failed, and asks for another one
if the job may be tried again. -/
def settle (policy : RetryPolicy) : JobOutcome → JobResult
  | .ok result => result
  | .error error => .failure error policy.retriable

/-- Another attempt follows on one that ended with the result. -/
def triesAgain (policy : RetryPolicy) (attempt : Nat) : JobResult → Bool
  | .failure _ retry => retry && attempt < policy.maxAttempts
  | _ => false

end RetryPolicy

/-! ### Jobs -/

/-- Work over the state `σ`. -/
structure Job (σ : Type) where
  /-- The word for this kind of job. -/
  type : String
  /-- The name for display. -/
  name : String
  policy : RetryPolicy
  /-- The milliseconds that a run takes. -/
  duration : Nat
  /-- A run, which is told the number of the attempt. -/
  run : Nat → σ → JobOutcome × σ

namespace Job

variable {σ : Type}

/-- The description of a job. -/
def text (job : Job σ) : String :=
  "Job \x7b type: " ++ Text.quoted job.type ++ ", name: " ++ Text.quoted job.name ++ " \x7d"

/-- What the attempts of a job came to. -/
structure Performance where
  /-- The number and the outcome of every attempt. -/
  attempts : List (Nat × JobOutcome)
  /-- The seconds of every pause between two attempts. -/
  pauses : List Nat
  /-- The result of the last attempt. -/
  result : JobResult
  deriving Repr, Inhabited

/-- Runs a job from an attempt on, of which `left` more may follow. -/
def performFrom (job : Job σ) (attempt : Nat) (left : Nat) (s : σ) : Performance × σ :=
  let (outcome, s) := job.run attempt s
  let result := job.policy.settle outcome
  match left with
  | 0 => (⟨[(attempt, outcome)], [], result⟩, s)
  | left + 1 =>
    if job.policy.triesAgain attempt result then
      let (later, s) := performFrom job (attempt + 1) left s
      (⟨(attempt, outcome) :: later.attempts, job.policy.delaySeconds :: later.pauses,
        later.result⟩, s)
    else (⟨[(attempt, outcome)], [], result⟩, s)

/-- Runs a job until an attempt is the last one. -/
def perform (job : Job σ) (s : σ) : Performance × σ :=
  job.performFrom 1 (job.policy.maxAttempts - 1) s

end Job

end Acquisition
