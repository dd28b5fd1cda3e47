import Acquisition.Path

/-!
# Collaborators that may not answer

The rules ask the history, the disk and the media probe.  Each of these may fail to answer, and
asking may change what it answers next.

## Main definitions

* `CollaboratorError`: why there was no answer.
* `Reading`: a question to a collaborator with the state `σ`.
-/

namespace Acquisition

/-- Why a collaborator did not answer. -/
inductive CollaboratorError
  | history (reason : String)
  | io (path : Path) (reason : String)
  | probe (path : Path) (reason : String)
  deriving DecidableEq, Repr, Inhabited

/-- The report of the failure. -/
def CollaboratorError.message : CollaboratorError → String
  | history reason => s!"history unavailable: {reason}"
  | io path reason => s!"i/o error on {path.text}: {reason}"
  | probe path reason => s!"media probe failed for {path.text}: {reason}"

/-- A question to a collaborator: from its state, the answer and its next state. -/
abbrev Reading (σ α : Type) := σ → Except CollaboratorError α × σ

namespace Reading

variable {σ α β : Type}

/-- The question that is always answered, or left unanswered, in the same way. -/
def fixed (result : Except CollaboratorError α) : Reading σ α := fun s => (result, s)

/-- The question whose answer is known. -/
def answer (a : α) : Reading σ α := fixed (.ok a)

/-- Changes the answer of a question. -/
def map (f : α → β) (reading : Reading σ α) : Reading σ β := fun s =>
  let (result, s) := reading s
  (result.map f, s)

/-- Answers while the state counts answers to come, and fails from then on. -/
def limited (error : CollaboratorError) (a : α) : Reading Nat α
  | 0 => (.error error, 0)
  | n + 1 => (.ok a, n)

end Reading

end Acquisition
