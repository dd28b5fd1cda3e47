import Acquisition.Grab.Ranking
import Mathlib.Data.List.Perm.Basic

/-!
# The order in which decisions are acted on

## Main definitions

* `bestFirst`: accepted decisions by media item, and best first within each.

## Main results

* `prioritize_eq`: the accepted decisions come first, and the rejected ones stay as they came.
* `prioritize_perm`: **no decision is lost or repeated.**
-/

namespace Acquisition

/-! ### Grouping by a key -/

/-- The groups of a list, one for each key that occurs, make up the list. -/
theorem groups_perm {α κ : Type} [BEq κ] [LawfulBEq κ] (key : α → κ) :
    ∀ (keys : List κ) (l : List α), (∀ a ∈ l, key a ∈ keys) →
      (keys.eraseDups.flatMap fun k => l.filter (key · == k)).Perm l
  | [], [], _ => List.Perm.refl _
  | [], a :: l, hkeys => absurd (hkeys a List.mem_cons_self) List.not_mem_nil
  | k :: keys, l, hkeys => by
    -- what is left without the first group has its keys among the others
    have hothers : ∀ a ∈ l.filter (!key · == k), key a ∈ keys.filter fun j => !j == k := by
      intro a hmem
      rw [List.mem_filter, Bool.not_eq_true', beq_eq_false_iff_ne] at hmem
      have hkey := (List.mem_cons.mp (hkeys a hmem.1)).resolve_left hmem.2
      exact List.mem_filter.mpr ⟨hkey, by simpa using hmem.2⟩
    have hgroups : ((keys.filter fun j => !j == k).eraseDups.flatMap fun j =>
          l.filter (key · == j)) =
        (keys.filter fun j => !j == k).eraseDups.flatMap fun j =>
          (l.filter (!key · == k)).filter (key · == j) := by
      refine List.flatMap_congr fun j hj => ?_
      rw [List.mem_eraseDups, List.mem_filter, Bool.not_eq_true', beq_eq_false_iff_ne] at hj
      rw [List.filter_filter]
      refine List.filter_congr fun a _ => ?_
      by_cases h : key a = j
      · simp [h, hj.2]
      · simp [h]
    rw [List.eraseDups_cons, List.flatMap_cons, hgroups]
    exact ((groups_perm key _ _ hothers).append_left _).trans (List.filter_append_perm _ l)
  termination_by keys => keys.length
  decreasing_by exact Nat.lt_succ_of_le (List.length_filter_le _ _)

/-! ### The order of decisions -/

/-- Accepted decisions by media item, in the order in which the items first occur, and best first
within each. -/
def bestFirst (store : ProfileStore) (now : Instant) (accepted : List GrabDecision) :
    List GrabDecision :=
  (mediaOrder accepted).flatMap fun mediaId =>
    (accepted.filter (·.candidate.media.id == mediaId)).mergeSort fun a b =>
      GrabCandidate.cmp store now b.candidate a.candidate != .gt

theorem prioritize_eq (store : ProfileStore) (now : Instant) (decisions : List GrabDecision) :
    prioritize store now decisions =
      bestFirst store now (decisions.filter (·.decision.isAccepted)) ++
        decisions.filter (!·.decision.isAccepted) := by
  rw [prioritize, List.partition_eq_filter_filter]
  rfl

theorem bestFirst_perm (store : ProfileStore) (now : Instant) (accepted : List GrabDecision) :
    (bestFirst store now accepted).Perm accepted := by
  refine List.Perm.trans ?_ (groups_perm (·.candidate.media.id)
    (accepted.map (·.candidate.media.id)) accepted fun decision => List.mem_map_of_mem)
  exact List.Perm.flatMap_left _ fun mediaId _ => List.mergeSort_perm _ _

theorem prioritize_perm (store : ProfileStore) (now : Instant) (decisions : List GrabDecision) :
    (prioritize store now decisions).Perm decisions := by
  rw [prioritize_eq]
  exact ((bestFirst_perm store now _).append_right _).trans (List.filter_append_perm _ decisions)

theorem isAccepted_of_mem_bestFirst {store : ProfileStore} {now : Instant}
    {decisions : List GrabDecision} {decision : GrabDecision}
    (hmem : decision ∈ bestFirst store now (decisions.filter (·.decision.isAccepted))) :
    decision.decision.isAccepted = true :=
  (List.mem_filter.mp ((bestFirst_perm store now _).mem_iff.mp hmem)).2

end Acquisition
