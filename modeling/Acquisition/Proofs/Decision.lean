import Acquisition.Engine

/-!
# Rejections for good and for now

A decision is one of three: it accepts, it rejects for good, or it rejects for now.

## Main definitions

* `Decision.isFinal`: a rejection that no later evaluation takes back by itself.
-/

namespace Acquisition

namespace Decision

/-- Rejected for good. -/
def isFinal : Decision → Bool
  | rejected ⟨_, _, .permanent⟩ => true
  | _ => false

@[simp] theorem isFinal_accepted : accepted.isFinal = false := rfl

@[simp] theorem isFinal_reject (kind : RejectionKind) (message : String) :
    (reject kind message).isFinal = true := rfl

@[simp] theorem isFinal_rejectForNow (kind : RejectionKind) (message : String) :
    (rejectForNow kind message).isFinal = false := rfl

@[simp] theorem isTemporary_accepted : accepted.isTemporary = false := rfl

@[simp] theorem isTemporary_reject (kind : RejectionKind) (message : String) :
    (reject kind message).isTemporary = false := rfl

@[simp] theorem isTemporary_rejectForNow (kind : RejectionKind) (message : String) :
    (rejectForNow kind message).isTemporary = true := rfl

@[simp] theorem reject_ne_accepted (kind : RejectionKind) (message : String) :
    reject kind message ≠ accepted := by
  rw [reject]; exact nofun

@[simp] theorem rejectForNow_ne_accepted (kind : RejectionKind) (message : String) :
    rejectForNow kind message ≠ accepted := by
  rw [rejectForNow]; exact nofun

@[simp] theorem isFinal_unavailable (rule : String) (error : CollaboratorError) :
    (unavailable rule error).isFinal = true := rfl

theorem ne_accepted_of_isFinal {decision : Decision} (h : decision.isFinal = true) :
    decision ≠ accepted := by
  rintro rfl; exact absurd h (by simp)

theorem ne_accepted_of_isTemporary {decision : Decision} (h : decision.isTemporary = true) :
    decision ≠ accepted := by
  rintro rfl; exact absurd h (by simp)

theorem isFinal_eq_false_of_isAccepted {decision : Decision} (h : decision.isAccepted = true) :
    decision.isFinal = false := by
  cases decision with
  | accepted => rfl
  | rejected => exact absurd h Bool.false_ne_true

theorem isAccepted_eq_false_of_isTemporary {decision : Decision}
    (h : decision.isTemporary = true) : decision.isAccepted = false := by
  cases decision with
  | accepted => exact absurd h Bool.false_ne_true
  | rejected => rfl

/-- No rejection is both for good and for now. -/
theorem isTemporary_eq_false_of_isFinal {decision : Decision} (h : decision.isFinal = true) :
    decision.isTemporary = false := by
  rcases decision with _ | ⟨kind, message, _ | _⟩
  · exact absurd h (by simp)
  · rfl
  · exact absurd h nofun

theorem isFinal_eq_false_of_isTemporary {decision : Decision} (h : decision.isTemporary = true) :
    decision.isFinal = false := by
  cases hfinal : decision.isFinal with
  | false => rfl
  | true =>
    rw [isTemporary_eq_false_of_isFinal hfinal] at h
    exact absurd h Bool.false_ne_true

end Decision

end Acquisition
