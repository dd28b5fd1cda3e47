import Acquisition.Schedule.Timeline

/-!
# Scripted jobs

Jobs whose runs end as a script says, to see how a registry plays out a set of jobs.  The state
that such jobs share is the list of the runs that were made.

## Main definitions

* `ScriptedEnd`: the ways in which a scripted run ends.
* `Job.scripted`: the job that follows a script.
-/

namespace Acquisition

/-- How a scripted run ends. -/
inductive ScriptedEnd
  | success
  | skipped
  /-- The run failed and asks for another attempt. -/
  | failedForNow
  /-- The run failed for good. -/
  | failed
  /-- The run was broken off by an error. -/
  | broken
  deriving DecidableEq, Repr, Inhabited

namespace ScriptedEnd

/-- All ways to end. -/
def all : List ScriptedEnd := [success, skipped, failedForNow, failed, broken]

/-- The word for an end. -/
def name : ScriptedEnd → String
  | success => "ok"
  | skipped => "skip"
  | failedForNow => "retry"
  | failed => "fail"
  | broken => "err"

/-- The end with the word. -/
def ofName? (word : String) : Option ScriptedEnd := all.find? (·.name == word)

/-- What a run that ends so comes to. -/
def outcome : ScriptedEnd → JobOutcome
  | success => .ok .success
  | skipped => .ok (.skipped "")
  | failedForNow => .ok (.failure "" true)
  | failed => .ok (.failure "" false)
  | broken => .error ""

/-- The end that shows in an outcome. -/
def ofOutcome : JobOutcome → ScriptedEnd
  | .ok .success => success
  | .ok (.skipped _) => skipped
  | .ok (.failure _ true) => failedForNow
  | .ok (.failure _ false) => failed
  | .error _ => broken

end ScriptedEnd

/-- The job whose n-th run ends as the n-th entry of the script says; the last entry repeats, and
an empty script always succeeds. -/
def Job.scripted (id : String) (policy : RetryPolicy) (duration : Nat)
    (script : List ScriptedEnd) : Job (List String) where
  type := "scripted"
  name := id
  policy := policy
  duration := duration
  run _ := fun runs =>
    (((script[runs.count id]? <|> script.getLast?).getD .success).outcome, id :: runs)

end Acquisition
