import Acquisition.Schedule.Job
import Mathlib.Order.Nat

/-!
# The attempts of a job

A job is tried until an attempt is the last one.  Which one that is depends on how the attempts come
out and on two marks, that of the job and that of the report, but it is always the first attempt
that either does not ask for another one or is the last that the policy allows.  Everything that the
job does follows from this number.

## Main definitions

* `RetryPolicy.allowed`: the number of attempts that the policy allows.
* `RetryPolicy.Ends`: why an attempt is the last one.
* `Job.stateAfter`, `Job.outcomeAfter`: how the attempts come out, one behind the other.
* `Job.LastsFor`: the number of attempts behind the first.

## Main results

* `RetryPolicy.triesAgain_settle_iff`: another attempt follows exactly on one that is not the last.
* `Job.exists_lastsFor`: there is a last attempt among those that are allowed.
* `Job.LastsFor.perform_eq`: **what the attempts of a job come to.**
-/

namespace Acquisition

/-! ### The last attempt -/

namespace RetryPolicy

variable {policy : RetryPolicy}

/-- The number of attempts that the policy allows. -/
def allowed (policy : RetryPolicy) : Nat :=
  if policy.retriable then policy.maxRetries.toNat + 1 else 1

/-- The attempts of a policy can be counted in words of 32 bits. -/
def Countable (policy : RetryPolicy) : Prop := policy.maxRetries.toNat + 1 < UInt32.size

theorem allowed_pos : 0 < policy.allowed := by
  unfold allowed
  split <;> omega

theorem allowed_le : policy.allowed ≤ policy.maxRetries.toNat + 1 := by
  unfold allowed
  split <;> omega

/-- The program counts the attempts right, as long as the count does not wrap. -/
theorem maxAttempts_eq (h : policy.Countable) : policy.maxAttempts = policy.allowed := by
  unfold maxAttempts allowed
  have count : (policy.maxRetries + 1).toNat = policy.maxRetries.toNat + 1 := by
    rw [UInt32.toNat_add]
    exact Nat.mod_eq_of_lt h
  rw [count]

/-- Why the attempt with the number is the last one. -/
inductive Ends (policy : RetryPolicy) (number : Nat) : JobOutcome → Prop
  | succeeded : Ends policy number (.ok .success)
  | skipped (reason : String) : Ends policy number (.ok (.skipped reason))
  /-- The attempt failed and does not ask for another one. -/
  | declined (error : String) : Ends policy number (.ok (.failure error false))
  /-- The attempt was broken off, and the job is not one to be tried again. -/
  | brokenOff (error : String) (h : policy.retriable = false) : Ends policy number (.error error)
  /-- No more attempts are allowed. -/
  | exhausted (outcome : JobOutcome) (h : policy.allowed ≤ number) : Ends policy number outcome

/-- Another attempt follows exactly on one that is not the last. -/
theorem triesAgain_settle_iff (h : policy.Countable) {number : Nat} {outcome : JobOutcome} :
    policy.triesAgain number (policy.settle outcome) = true ↔ ¬ policy.Ends number outcome := by
  constructor
  · intro hagain hends
    cases hends with
    | succeeded | skipped | declined => simp [settle, triesAgain] at hagain
    | brokenOff error hmark => simp [settle, triesAgain, hmark] at hagain
    | exhausted outcome hallowed =>
      have : policy.triesAgain number (policy.settle outcome) = false := by
        cases policy.settle outcome <;> simp [triesAgain, maxAttempts_eq h, hallowed]
      simp [this] at hagain
  · intro hends
    have hallowed : number < policy.maxAttempts := by
      rw [maxAttempts_eq h]
      exact Nat.lt_of_not_le fun hle => hends (.exhausted outcome hle)
    match outcome with
    | .ok .success => exact absurd .succeeded hends
    | .ok (.skipped reason) => exact absurd (.skipped reason) hends
    | .ok (.failure error false) => exact absurd (.declined error) hends
    | .ok (.failure error true) => simpa [settle, triesAgain] using hallowed
    | .error error =>
      have hmark : policy.retriable = true := by
        by_contra hmark
        exact hends (.brokenOff error (by simpa using hmark))
      simpa [settle, triesAgain, hmark] using hallowed

end RetryPolicy

/-! ### One attempt behind the other -/

namespace Job

variable {σ : Type} {job : Job σ} {s : σ} {retries : Nat}

/-- What a job leaves behind after the first attempts. -/
def stateAfter (job : Job σ) (s : σ) : Nat → σ
  | 0 => s
  | n + 1 => (job.run (n + 1) (job.stateAfter s n)).2

/-- How the attempt comes out that is made after so many others. -/
def outcomeAfter (job : Job σ) (s : σ) (n : Nat) : JobOutcome :=
  (job.run (n + 1) (job.stateAfter s n)).1

theorem run_eq (n : Nat) : job.run (n + 1) (job.stateAfter s n) =
    (job.outcomeAfter s n, job.stateAfter s (n + 1)) := rfl

/-- So many attempts follow on the first one: the one behind them is the last, and none of those
ahead of it is. -/
structure LastsFor (job : Job σ) (s : σ) (retries : Nat) : Prop where
  goesOn : ∀ n < retries, ¬ job.policy.Ends (n + 1) (job.outcomeAfter s n)
  ends : job.policy.Ends (retries + 1) (job.outcomeAfter s retries)

/-- Another attempt follows on all but the last. -/
theorem LastsFor.triesAgain (hcount : job.policy.Countable) (h : job.LastsFor s retries) {n : Nat}
    (hn : n < retries) :
    job.policy.triesAgain (n + 1) (job.policy.settle (job.outcomeAfter s n)) = true :=
  (RetryPolicy.triesAgain_settle_iff hcount).mpr (h.goesOn n hn)

/-- No attempt follows on the last. -/
theorem LastsFor.stops (hcount : job.policy.Countable) (h : job.LastsFor s retries) :
    job.policy.triesAgain (retries + 1) (job.policy.settle (job.outcomeAfter s retries)) =
      false := by
  rw [Bool.eq_false_iff]
  intro hagain
  exact (RetryPolicy.triesAgain_settle_iff hcount).mp hagain h.ends

/-- There is a last attempt among those that are allowed. -/
theorem exists_lastsFor (job : Job σ) (s : σ) :
    ∃ retries, retries + 1 ≤ job.policy.allowed ∧ job.LastsFor s retries := by
  classical
  have hends : ∃ n, job.policy.Ends (n + 1) (job.outcomeAfter s n) :=
    ⟨job.policy.allowed, .exhausted _ (Nat.le_succ _)⟩
  have hallowed := job.policy.allowed_pos
  refine ⟨Nat.find hends, ?_, fun n hn => Nat.find_min hends hn, Nat.find_spec hends⟩
  have hfirst : Nat.find hends ≤ job.policy.allowed - 1 :=
    Nat.find_min' hends (.exhausted _ (by omega))
  omega

/-- What the attempts come to from some attempt on, of which the last one is still to come. -/
theorem LastsFor.performFrom_eq (hcount : job.policy.Countable) (h : job.LastsFor s retries)
    {n k left : Nat} (hk : n + k = retries) (hleft : k ≤ left) :
    job.performFrom (n + 1) left (job.stateAfter s n) =
      (⟨(List.range' n (k + 1)).map fun n => (n + 1, job.outcomeAfter s n),
        List.replicate k job.policy.delaySeconds, job.policy.settle (job.outcomeAfter s retries)⟩,
        job.stateAfter s (retries + 1)) := by
  -- the number of attempts that may follow only has to be large enough: it is never what ends them
  induction k generalizing n left with
  | zero =>
    obtain rfl : n = retries := hk
    cases left with
    | zero => simp [performFrom, run_eq]
    | succ left => simp [performFrom, run_eq, h.stops hcount]
  | succ k ih =>
    obtain ⟨left, rfl⟩ : ∃ rest, left = rest + 1 := ⟨left - 1, by omega⟩
    have hagain := h.triesAgain hcount (show n < retries by omega)
    have hrest := ih (n := n + 1) (by omega) (show k ≤ left by omega)
    rw [performFrom]
    simp only [run_eq, hagain, if_true, hrest]
    rfl

/-- **What the attempts of a job come to**: attempts with the numbers from one on, a pause between
each two of them, and the result of the last one. -/
theorem LastsFor.perform_eq (hcount : job.policy.Countable) (h : job.LastsFor s retries)
    (hallowed : retries + 1 ≤ job.policy.allowed) :
    job.perform s =
      (⟨(List.range (retries + 1)).map fun n => (n + 1, job.outcomeAfter s n),
        List.replicate retries job.policy.delaySeconds,
        job.policy.settle (job.outcomeAfter s retries)⟩, job.stateAfter s (retries + 1)) := by
  rw [perform, RetryPolicy.maxAttempts_eq hcount, List.range_eq_range']
  exact h.performFrom_eq hcount (Nat.zero_add retries) (by omega)

end Job

end Acquisition
