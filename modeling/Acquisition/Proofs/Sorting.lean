/-!
# Stable sorting

Sorting by merging is stable: of elements that may stand either way round, the one that stood
first stays first.  Equal elements are told apart by their places in the list.

## Main results

* `pairwise_mergeSort_of_pairwise`: the order before the sort decides between equals.
* `find?_mergeSort_some`: what is found first after the sort, told from the list before it.
* `mergeSort_congr`: only what the order says of the elements of the list counts.
* `map_fst_mergeSort`: elements are sorted as they would be without their places.
-/

namespace Acquisition

variable {α : Type} {le : α → α → Bool}

/-- A comparison puts any two elements in order. -/
theorem isLE_or_isLE {cmp : α → α → Ordering} [Std.OrientedCmp cmp] (a b : α) :
    ((cmp a b).isLE || (cmp b a).isLE) = true := by
  rw [← Std.OrientedCmp.isGE_eq_isLE]
  cases cmp b a <;> rfl

/-- **Sorting is stable.**  Whatever holds of the elements of a list in the order in which they
stand holds after the sort of those that the sort does not tell apart. -/
theorem pairwise_mergeSort_of_pairwise
    (htrans : ∀ a b c, le a b = true → le b c = true → le a c = true)
    (htotal : ∀ a b, (le a b || le b a) = true) {before : α → α → Prop} :
    ∀ {l : List α}, l.Pairwise before →
      (l.mergeSort le).Pairwise fun a b => le a b = true ∧ (le b a = true → before a b)
  | [], _ => by rw [List.mergeSort_nil]; exact List.Pairwise.nil
  | a :: l, hbefore => by
    obtain ⟨front, back, hsorted, hrest, hfront⟩ := List.mergeSort_cons htrans htotal a l
    obtain ⟨hhead, htail⟩ := List.pairwise_cons.mp hbefore
    have hrec := pairwise_mergeSort_of_pairwise htrans htotal htail
    have hmem : ∀ b, b ∈ front ++ back → b ∈ l := by
      intro b hb
      rw [← hrest] at hb
      exact List.mem_mergeSort.mp hb
    have hle : (front ++ a :: back).Pairwise fun a b => le a b = true := by
      rw [← hsorted]
      exact List.pairwise_mergeSort htrans htotal (a :: l)
    rw [hrest] at hrec
    rw [hsorted]
    -- the head goes behind those that come before it for certain, and before all others
    obtain ⟨hfront', hback', hacross⟩ := List.pairwise_append.mp hrec
    obtain ⟨-, hleback, hleacross⟩ := List.pairwise_append.mp hle
    refine List.pairwise_append.mpr ⟨hfront', List.pairwise_cons.mpr ⟨?_, hback'⟩, ?_⟩
    · intro b hb
      exact ⟨(List.pairwise_cons.mp hleback).1 b hb,
        fun _ => hhead b (hmem b (List.mem_append_right _ hb))⟩
    · intro b hb c hc
      rcases List.mem_cons.mp hc with rfl | hc
      · have hnot : (!le c b) = true := hfront b hb
        refine ⟨hleacross b hb c List.mem_cons_self, fun hle => ?_⟩
        rw [hle] at hnot
        exact Bool.noConfusion hnot
      · exact hacross b hb c hc

/-- The element that is found first after the sort: of those that are looked for, no earlier one
may stand before it, and every later one may stand behind it. -/
theorem find?_mergeSort_some (htrans : ∀ a b c, le a b = true → le b c = true → le a c = true)
    (htotal : ∀ a b, (le a b || le b a) = true) {select : α → Bool} {found : α} :
    ∀ {l : List α}, (l.mergeSort le).find? select = some found →
      ∃ front back, l = front ++ found :: back ∧
        (∀ a ∈ front, select a = true → le a found = false) ∧
          ∀ a ∈ back, select a = true → le found a = true
  | [], hfind => by
    rw [List.mergeSort_nil] at hfind
    exact absurd hfind nofun
  | a :: l, hfind => by
    obtain ⟨ahead, behind, hsorted, hrest, hahead⟩ := List.mergeSort_cons htrans htotal a l
    rw [hsorted, List.find?_append] at hfind
    have hnext : ∀ {b}, (l.mergeSort le).find? select = some b →
        (select a = true → le a b = false) →
          ∃ front back, a :: l = front ++ b :: back ∧
            (∀ a ∈ front, select a = true → le a b = false) ∧
              ∀ a ∈ back, select a = true → le b a = true := by
      intro b hb hnot
      obtain ⟨front, back, hl, hfront, hback⟩ := find?_mergeSort_some htrans htotal hb
      exact ⟨a :: front, back, by rw [hl, List.cons_append],
        List.forall_mem_cons.mpr ⟨hnot, hfront⟩, hback⟩
    cases hcase : ahead.find? select with
    | some b =>
      rw [hcase, Option.some_or, Option.some.injEq] at hfind
      subst hfind
      refine hnext (by rw [hrest, List.find?_append, hcase, Option.some_or]) fun _ => ?_
      exact Bool.not_eq_true' _ |>.mp (hahead b (List.mem_of_find?_eq_some hcase))
    | none =>
      rw [hcase, Option.none_or] at hfind
      by_cases hselect : select a = true
      · rw [List.find?_cons_of_pos hselect, Option.some.injEq] at hfind
        subst hfind
        refine ⟨[], l, rfl, fun b hb => absurd hb List.not_mem_nil, fun b hb hb' => ?_⟩
        have hsortedLe : (ahead ++ a :: behind).Pairwise fun a b => le a b = true := by
          rw [← hsorted]
          exact List.pairwise_mergeSort htrans htotal (a :: l)
        have hmem : b ∈ ahead ++ behind := by rw [← hrest]; exact List.mem_mergeSort.mpr hb
        rcases List.mem_append.mp hmem with hin | hin
        · exact absurd hb' (List.find?_eq_none.mp hcase b hin)
        · exact (List.pairwise_cons.mp (List.pairwise_append.mp hsortedLe).2.1).1 b hin
      · rw [List.find?_cons_of_neg hselect] at hfind
        refine hnext ?_ fun h => absurd h hselect
        rw [hrest, List.find?_append, hcase, Option.none_or]
        exact hfind

/-- Only what the order says of the elements of the list counts. -/
theorem mergeSort_congr {le' : α → α → Bool} {l : List α}
    (h : ∀ a ∈ l, ∀ b ∈ l, le a b = le' a b) : l.mergeSort le = l.mergeSort le' := by
  have hmap : (l.mergeSort le).map id = (l.map id).mergeSort le' := List.map_mergeSort h
  simpa only [List.map_id] using hmap

/-! ### Elements with their places -/

/-- The places of a list ascend. -/
theorem pairwise_zipIdx (l : List α) : l.zipIdx.Pairwise fun a b => a.2 < b.2 := by
  have hplaces : (l.zipIdx.map Prod.snd).Pairwise (· < ·) := by
    rw [List.zipIdx_map_snd]
    exact List.pairwise_lt_range' 1
  exact List.pairwise_map.mp hplaces

/-- Elements are sorted as they would be without their places. -/
theorem map_fst_mergeSort {β : Type} (le : α → α → Bool) (l : List (α × β)) :
    (l.mergeSort fun a b => le a.1 b.1).map Prod.fst = (l.map Prod.fst).mergeSort le :=
  List.map_mergeSort fun _ _ _ _ => rfl

/-- Elements are kept as they would be without their places. -/
theorem map_fst_filter {β : Type} (keep : α → Bool) (l : List (α × β)) :
    (l.filter fun a => keep a.1).map Prod.fst = (l.map Prod.fst).filter keep :=
  List.filter_map.symm

end Acquisition
