import Acquisition.Proofs.Schedule.Attempts
import Acquisition.Schedule.Script
import Mathlib.Tactic.Ring

/-!
# A job that has the time to itself

The attempts of a job and the moments at which they are made.  A job that is registered for one run
finds a slot at once, and from then on every step of the timeline is one of its own: an attempt
begins, it ends after the time that a run takes, and the next one begins after the pause.  So the
timeline makes the attempts that the policy allows, the first one at once and each other one as much
later as a run and a pause take together, until it is cut off.

## Main definitions

* `Timeline.ComesTo`: what the runs and the state of a timeline are at the end.
* `Job.startOf`, `Job.runAfter`: when an attempt begins, and the record of it.
* `Job.Obeys`: a job makes the attempts that its policy allows, with its pauses between them.

## Main results

* `Timeline.comesTo_resumeAt`: a lone task goes on as soon as its moment has come.
* `Job.obeys_policy`: **every job obeys its policy.**
-/

namespace Acquisition

/-! ### A timeline with one task -/

namespace Timeline

variable {σ : Type} {finish need now due free : Nat} {runs ran : List RunRecord} {world left : σ}

/-- Enough steps take the timeline to the runs and the state. -/
def ComesTo (finish need now : Nat) (timeline : Timeline σ) (runs : List RunRecord)
    (world : σ) : Prop :=
  ∀ fuel, need ≤ fuel → (timeline.runUntil finish fuel now).runs = runs ∧
    (timeline.runUntil finish fuel now).world = world

/-- Nobody's turn is next, and nobody waits. -/
def quiet (free : Nat) (runs : List RunRecord) (world : σ) : Timeline σ :=
  ⟨[], [], [], free, runs, world⟩

theorem ComesTo.mono {timeline : Timeline σ} {more : Nat}
    (h : timeline.ComesTo finish need now runs world) (hmore : need ≤ more) :
    timeline.ComesTo finish more now runs world :=
  fun fuel hfuel => h fuel (Nat.le_trans hmore hfuel)

theorem comesTo_quiet : (quiet free runs world).ComesTo finish 0 now runs world := by
  intro fuel _
  cases fuel <;> exact ⟨rfl, rfl⟩

/-- A lone task acts when it is its turn. -/
theorem comesTo_ready {task : Task σ}
    (h : ((quiet free runs world).act now task).ComesTo finish need now ran left) :
    ({ quiet free runs world with ready := [task] } : Timeline σ).ComesTo finish (need + 1) now
      ran left := by
  intro fuel hfuel
  obtain ⟨fuel, rfl⟩ : ∃ rest, fuel = rest + 1 := ⟨fuel - 1, by omega⟩
  exact h fuel (by omega)

/-- A lone task goes on as soon as its moment has come. -/
theorem comesTo_resumeAt {task : Task σ} (hnow : now ≤ due) (hdue : due < finish)
    (h : ((quiet free runs world).act due task).ComesTo finish need due ran left) :
    ((quiet free runs world).resumeAt now due task).ComesTo finish (need + 2) now ran left := by
  by_cases hlater : due ≤ now
  · obtain rfl : due = now := Nat.le_antisymm hlater hnow
    rw [resumeAt, if_pos hlater]
    exact (comesTo_ready h).mono (by omega)
  · -- one step more is taken to the moment
    intro fuel hfuel
    obtain ⟨fuel, rfl⟩ : ∃ rest, fuel = rest + 2 := ⟨fuel - 2, by omega⟩
    have hwake : ((quiet free runs world).resumeAt now due task).runUntil finish (fuel + 2) now =
        ((quiet free runs world).act due task).runUntil finish fuel due := by
      simp [resumeAt, hlater, quiet, runUntil, nextMoment?, hdue, wake]
    rw [hwake]
    exact h fuel (by omega)

/-- A task whose moment is not ahead of the end goes on no more. -/
theorem comesTo_cutOff {task : Task σ} (hnow : now < finish) (hdue : finish ≤ due) :
    ((quiet free runs world).resumeAt now due task).ComesTo finish 0 now runs world := by
  have hlater : ¬ due ≤ now := by omega
  have hcut : ¬ due < finish := by omega
  intro fuel _
  cases fuel <;> simp [resumeAt, hlater, quiet, runUntil, nextMoment?, hcut]

end Timeline

/-! ### The attempts in time -/

namespace Job

open Timeline

variable {σ : Type} {job : Job σ} {s : σ} {retries : Nat}

/-- When the attempt begins that is made after so many others. -/
def startOf (job : Job σ) (n : Nat) : Nat := n * (job.duration + 1000 * job.policy.delaySeconds)

/-- The record of the attempt that is made after so many others. -/
def runAfter (job : Job σ) (id : String) (s : σ) (n : Nat) : RunRecord :=
  ⟨job.startOf n, id, n + 1, job.outcomeAfter s n⟩

/-- The records of successive attempts, as far as these begin before an end. -/
def runsFrom (job : Job σ) (id : String) (s : σ) (finish n count : Nat) : List RunRecord :=
  ((List.range' n count).map (job.runAfter id s)).filter (·.time < finish)

theorem startOf_succ (n : Nat) :
    job.startOf (n + 1) = job.startOf n + job.duration + 1000 * job.policy.delaySeconds := by
  unfold startOf
  ring

theorem startOf_mono {m n : Nat} (h : m ≤ n) : job.startOf m ≤ job.startOf n :=
  Nat.mul_le_mul_right _ h

section Records

variable (id : String) {finish n : Nat} (count : Nat)

theorem runsFrom_succ (h : job.startOf n < finish) :
    job.runsFrom id s finish n (count + 1) =
      job.runAfter id s n :: job.runsFrom id s finish (n + 1) count := by
  simp [runsFrom, List.range'_succ, runAfter, h]

theorem runsFrom_eq_nil (h : finish ≤ job.startOf n) : job.runsFrom id s finish n count = [] := by
  rw [runsFrom, List.filter_eq_nil_iff]
  intro run hrun
  obtain ⟨m, hm, rfl⟩ := List.mem_map.mp hrun
  have hlater : job.startOf n ≤ job.startOf m := startOf_mono (List.mem_range'_1.mp hm).1
  intro hbefore
  exact absurd (of_decide_eq_true hbefore) (Nat.not_lt_of_le (Nat.le_trans h hlater))

end Records

/-- A job that is about to be tried after so many attempts. -/
def attempting (job : Job σ) (id : String) (n : Nat) : Task σ :=
  ⟨⟨id, job, .once⟩, 0, .attempt (n + 1)⟩

/-- A job at the end of the attempt that was made after so many others. -/
def settling (job : Job σ) (id : String) (s : σ) (n : Nat) : Task σ :=
  ⟨⟨id, job, .once⟩, 0, .settle (n + 1) (job.policy.settle (job.outcomeAfter s n))⟩

section Steps

variable {id : String} {free now n : Nat} {runs : List RunRecord} {world : σ}

theorem act_attempting : (quiet free runs (job.stateAfter s n)).act now (job.attempting id n) =
    (quiet free (⟨now, id, n + 1, job.outcomeAfter s n⟩ :: runs)
      (job.stateAfter s (n + 1))).resumeAt now (now + job.duration) (job.settling id s n) := rfl

theorem act_settling_again
    (h : job.policy.triesAgain (n + 1) (job.policy.settle (job.outcomeAfter s n)) = true) :
    (quiet free runs world).act now (job.settling id s n) =
      (quiet free runs world).resumeAt now (now + 1000 * job.policy.delaySeconds)
        (job.attempting id (n + 1)) := by
  simp [act, settling, attempting, h]

theorem act_settling_last
    (h : job.policy.triesAgain (n + 1) (job.policy.settle (job.outcomeAfter s n)) = false) :
    (quiet free runs world).act now (job.settling id s n) = quiet (free + 1) runs world := by
  simp [act, settling, h, release, quiet]

end Steps

/-- From an attempt on, a lone job makes those up to the last one that begin before the end. -/
theorem LastsFor.comesTo (hcount : job.policy.Countable) (h : job.LastsFor s retries)
    (id : String) (free : Nat) (runs : List RunRecord) {finish n k : Nat} (hk : n + k = retries)
    (hstart : job.startOf n < finish) :
    ((quiet free runs (job.stateAfter s n)).act (job.startOf n) (job.attempting id n)).ComesTo
      finish (4 * k + 2) (job.startOf n)
      ((job.runsFrom id s finish n (k + 1)).reverse ++ runs)
      (job.stateAfter s (n + (job.runsFrom id s finish n (k + 1)).length)) := by
  -- on the attempts that are still to come; each of them takes four steps at most
  induction k generalizing n runs with
  | zero =>
    obtain rfl : n = retries := hk
    rw [act_attempting, runsFrom_succ id _ hstart]
    by_cases hend : job.startOf n + job.duration < finish
    · refine comesTo_resumeAt (Nat.le_add_right _ _) hend ?_
      rw [act_settling_last (h.stops hcount)]
      exact comesTo_quiet
    · exact (comesTo_cutOff hstart (by omega)).mono (by omega)
  | succ k ih =>
    have hagain := h.triesAgain hcount (show n < retries by omega)
    have hnext := job.startOf_succ n
    rw [act_attempting, runsFrom_succ id _ hstart]
    show ComesTo finish (4 * k + 4 + 2) _ _ _ _
    by_cases hbefore : job.startOf (n + 1) < finish
    · -- the next attempt begins before the end
      have hruns :
          (job.runAfter id s n :: job.runsFrom id s finish (n + 1) (k + 1)).reverse ++ runs =
            (job.runsFrom id s finish (n + 1) (k + 1)).reverse ++ job.runAfter id s n :: runs := by
        simp
      have hlength : n + (job.runAfter id s n :: job.runsFrom id s finish (n + 1) (k + 1)).length =
          n + 1 + (job.runsFrom id s finish (n + 1) (k + 1)).length := by
        rw [List.length_cons]
        omega
      rw [hruns, hlength]
      refine comesTo_resumeAt (Nat.le_add_right _ _) (by omega) ?_
      rw [act_settling_again hagain, ← hnext]
      exact comesTo_resumeAt (by omega) hbefore (ih _ (by omega) hbefore)
    · -- the end comes within the attempt or the pause behind it
      rw [runsFrom_eq_nil id _ (Nat.le_of_not_lt hbefore)]
      by_cases hend : job.startOf n + job.duration < finish
      · refine comesTo_resumeAt (Nat.le_add_right _ _) hend ?_
        rw [act_settling_again hagain, ← hnext]
        exact (comesTo_cutOff hend (Nat.le_of_not_lt hbefore)).mono (by omega)
      · exact (comesTo_cutOff hstart (by omega)).mono (by omega)

/-! ### The policy is obeyed -/

/-- A job that is registered alone finds a slot at once. -/
theorem act_start (id : String) (slots : Nat) :
    (quiet (max slots 1) [] s).act 0 (.start ⟨id, job, .once⟩) =
      { quiet (max slots 1 - 1) [] s with ready := [job.attempting id 0] } := by
  have hfree : 0 < max slots 1 := by omega
  simp [act, Task.start, acquire, quiet, hfree, Task.ticked, attempting, Schedule.period?]

/-- Successive attempts are recorded in the order in which runs are listed. -/
theorem mergeSort_runsFrom (id : String) (finish n count : Nat) :
    (job.runsFrom id s finish n count).mergeSort (fun a b =>
      (compare a.time b.time).then (compare a.job b.job) != .gt) =
        job.runsFrom id s finish n count := by
  refine List.mergeSort_of_pairwise ?_
  refine List.Pairwise.filter _ (List.pairwise_map.mpr ?_)
  refine List.Pairwise.imp ?_ List.pairwise_lt_range'
  intro m n hlt
  have hid : compare id id = .eq := Std.ReflCmp.compare_self
  have htime : job.startOf m ≤ job.startOf n := startOf_mono (Nat.le_of_lt hlt)
  show ((compare (job.startOf m) (job.startOf n)).then (compare id id) != .gt) = true
  rcases Nat.lt_or_eq_of_le htime with htime | htime
  · rw [Nat.compare_eq_lt.mpr htime]
    rfl
  · rw [Nat.compare_eq_eq.mpr htime, hid]
    rfl

/-- The runs of a job that is registered alone and for once. -/
theorem LastsFor.runFor_eq (hcount : job.policy.Countable) (h : job.LastsFor s retries)
    (hallowed : retries + 1 ≤ job.policy.allowed) (id : String) (slots finish : Nat) :
    ((JobRegistry.withSlots slots).register id job .once).runFor finish s =
      (job.runsFrom id s finish 0 (retries + 1),
        job.stateAfter s (job.runsFrom id s finish 0 (retries + 1)).length) := by
  have hstart : job.startOf 0 = 0 := Nat.zero_mul _
  rcases Nat.eq_zero_or_pos finish with rfl | hpos
  · rw [runsFrom_eq_nil id _ (Nat.zero_le _)]
    rfl
  · -- the first two steps are the tick and the beginning of the first attempt
    have hattempts : ((quiet (max slots 1) [] s).act 0 (.start ⟨id, job, .once⟩)).ComesTo finish
        (4 * retries + 3) 0 (job.runsFrom id s finish 0 (retries + 1)).reverse
        (job.stateAfter s (job.runsFrom id s finish 0 (retries + 1)).length) := by
      rw [act_start]
      have hfirst := h.comesTo hcount id (max slots 1 - 1) [] (Nat.zero_add retries)
        (hstart.symm ▸ hpos)
      rw [hstart, List.append_nil, Nat.zero_add] at hfirst
      exact comesTo_ready hfirst
    have hbound : 4 * retries + 4 ≤
        ((JobRegistry.withSlots slots).register id job .once).stepBound finish := by
      show _ ≤ finish * (1 + (4 * job.policy.maxAttempts + 8))
      rw [RetryPolicy.maxAttempts_eq hcount]
      refine Nat.le_trans ?_ (Nat.le_mul_of_pos_left _ hpos)
      omega
    have hcomes : (((JobRegistry.withSlots slots).register id job .once).start s).ComesTo finish
        (4 * retries + 4) 0 (job.runsFrom id s finish 0 (retries + 1)).reverse
        (job.stateAfter s (job.runsFrom id s finish 0 (retries + 1)).length) :=
      comesTo_ready hattempts
    obtain ⟨hruns, hworld⟩ := hcomes _ hbound
    have hfinish : ¬ (finish == 0) = true := by simpa using Nat.ne_of_gt hpos
    rw [JobRegistry.runFor, if_neg hfinish]
    simp only [hruns, hworld, List.reverse_reverse, mergeSort_runsFrom]

/-- A job makes so many attempts behind the first one, as its policy has it. -/
structure Obeys (job : Job σ) (s : σ) (retries : Nat) : Prop extends job.LastsFor s retries where
  /-- No more attempts are made than are allowed. -/
  bounded : retries + 1 ≤ job.policy.allowed
  /-- The attempts are numbered from one on, between each two of them there is the pause of the
  policy, and the result is that of the last one. -/
  performed : job.perform s =
    (⟨(List.range (retries + 1)).map fun n => (n + 1, job.outcomeAfter s n),
      List.replicate retries job.policy.delaySeconds,
      job.policy.settle (job.outcomeAfter s retries)⟩, job.stateAfter s (retries + 1))
  /-- In time, every attempt begins after the run and the pause behind the one before. -/
  timed : ∀ id slots finish,
    ((JobRegistry.withSlots slots).register id job .once).runFor finish s =
      (job.runsFrom id s finish 0 (retries + 1),
        job.stateAfter s (job.runsFrom id s finish 0 (retries + 1)).length)

/-- A job that is broken off, fails, and succeeds at last. -/
def flaky : Job (List String) :=
  scripted "flaky" { maxRetries := 4, delaySeconds := 5 } 100 [.broken, .failedForNow, .success]

example : (flaky.perform []).1.attempts.map (·.1) = [1, 2, 3] ∧
    (flaky.perform []).1.pauses = [5, 5] ∧ (flaky.perform []).1.result = .success := by
  decide

end Job

end Acquisition
