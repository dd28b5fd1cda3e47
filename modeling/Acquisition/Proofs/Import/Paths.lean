import Acquisition.Import.Service
import Acquisition.Proofs.Sorting
import Mathlib.Data.Finset.Card
import Mathlib.Data.List.Sort

/-!
# The paths of a request

An import takes the paths of its request in their order, each once.  Paths are ordered by their
components, so that texts that denote the same path are not told apart.

## Main definitions

* `Lists`: a list names every one of the paths once, in order.

## Main results

* `Path.cmp_eq_eq_iff`: the order of paths does not tell the same paths apart, and all others.
* `orderedPaths_lists`: the paths of a request are listed.
* `Lists.length_eq`: they are as many as there are distinct paths.
* `orderedPaths_congr`: **the order in which the paths are given does not matter**, where each is
  written in one way.
-/

namespace Acquisition

namespace Path

/-! ### The order of components -/

namespace Component

/-- The text of a name; the other components have none. -/
def text : Component → String
  | name text => text
  | _ => ""

/-- The kind decides, then the text. -/
theorem cmp_eq : Component.cmp =
    compareLex (compareOn Component.kindRank) (compareOn Component.text) := by
  funext a b
  cases a <;> cases b <;> simp [Component.cmp, compareLex, compareOn, kindRank, text] <;> rfl

instance : Std.TransCmp Component.cmp := by
  rw [cmp_eq]
  infer_instance

/-- Kind and text say which component it is. -/
instance : Std.LawfulEqCmp Component.cmp where
  compare_self {a} := by
    rw [cmp_eq]
    exact Std.ReflCmp.compare_self
  eq_of_compare {a b} h := by
    rw [cmp_eq, compareLex, Ordering.then_eq_eq] at h
    obtain ⟨hkind, htext⟩ := h
    have hkind : a.kindRank = b.kindRank := Std.LawfulEqOrd.eq_of_compare hkind
    have htext : a.text = b.text := Std.LawfulEqOrd.eq_of_compare htext
    cases a <;> cases b <;> simp_all [kindRank, text]

end Component

/-! ### The order of paths -/

theorem cmpComponents_eq (a b : List Component) :
    cmpComponents a b = List.compareLex Component.cmp a b := by
  induction a generalizing b with
  | nil => cases b <;> rfl
  | cons first a ih =>
    cases b with
    | nil => rfl
    | cons second b =>
      rw [cmpComponents, List.compareLex, ih]
      cases first.cmp second <;> rfl

theorem cmp_eq (a b : Path) : a.cmp b = List.compareLex Component.cmp a.components b.components :=
  cmpComponents_eq a.components b.components

/-- Paths are ordered as their components are. -/
instance : Std.TransCmp Path.cmp where
  eq_swap {a b} := by
    rw [cmp_eq, cmp_eq]
    exact Std.OrientedCmp.eq_swap
  isLE_trans {a b c} h h' := by
    rw [cmp_eq] at h h' ⊢
    exact Std.TransCmp.isLE_trans h h'

theorem same_iff {a b : Path} : a.same b = true ↔ a.components = b.components :=
  beq_iff_eq

/-- The order does not tell the same paths apart, and all others. -/
theorem cmp_eq_eq_iff {a b : Path} : a.cmp b = .eq ↔ a.same b = true := by
  rw [cmp_eq, same_iff]
  exact Std.LawfulEqCmp.compare_eq_iff_eq

theorem ne_of_cmp_lt {a b : Path} (h : a.cmp b = .lt) : a ≠ b := by
  rintro rfl
  have hself : a.cmp a = .eq := Std.ReflCmp.compare_self
  rw [hself] at h
  exact absurd h nofun

end Path

/-! ### Dropping repeats -/

theorem dropRepeats_cons (path : Path) (paths : List Path) :
    dropRepeats (path :: paths) =
      match dropRepeats paths with
      | [] => [path]
      | next :: rest => if path.same next then path :: rest else path :: next :: rest := rfl

theorem dropRepeats_sublist (paths : List Path) : (dropRepeats paths).Sublist paths := by
  induction paths with
  | nil => exact .slnil
  | cons path paths ih =>
    rw [dropRepeats_cons]
    cases hrest : dropRepeats paths with
    | nil => exact (List.nil_sublist paths).cons_cons path
    | cons next rest =>
      rw [hrest] at ih
      by_cases hsame : path.same next = true
      · simp only [hsame, if_true]
        exact ((List.sublist_cons_self next rest).trans ih).cons_cons path
      · simp only [hsame]
        exact ih.cons_cons path

/-- Of paths in order, no two that are left are the same.  The first one is left, or was dropped for
one that is the same. -/
theorem dropRepeats_pairwise {paths : List Path}
    (h : paths.Pairwise fun a b => (a.cmp b).isLE = true) :
    (dropRepeats paths).Pairwise fun a b => a.cmp b = .lt := by
  induction paths with
  | nil => exact List.Pairwise.nil
  | cons path paths ih =>
    obtain ⟨hpath, hpaths⟩ := List.pairwise_cons.mp h
    have hrec := ih hpaths
    rw [dropRepeats_cons]
    cases hrest : dropRepeats paths with
    | nil => exact List.pairwise_singleton _ path
    | cons next rest =>
      rw [hrest] at hrec
      obtain ⟨hnext, hrest'⟩ := List.pairwise_cons.mp hrec
      by_cases hsame : path.same next = true
      · simp only [hsame, if_true]
        refine List.pairwise_cons.mpr ⟨fun other hmem => ?_, hrest'⟩
        rw [Std.TransCmp.congr_left (Path.cmp_eq_eq_iff.mpr hsame)]
        exact hnext other hmem
      · simp only [hsame]
        have hmem : next ∈ paths := by
          refine (dropRepeats_sublist paths).mem ?_
          rw [hrest]
          exact List.mem_cons_self
        have hle : (path.cmp next).isLE = true := hpath next hmem
        have hne : path.cmp next ≠ .eq := fun heq => hsame (Path.cmp_eq_eq_iff.mp heq)
        have hlt : path.cmp next = .lt :=
          (Ordering.isLE_iff_eq_lt_or_eq_eq.mp hle).resolve_right hne
        refine List.pairwise_cons.mpr ⟨fun other hother => ?_, hrec⟩
        rcases List.mem_cons.mp hother with rfl | hother
        · exact hlt
        · exact Std.TransCmp.lt_trans hlt (hnext other hother)

/-- Every path is left, or one that is the same. -/
theorem exists_same_mem_dropRepeats {paths : List Path} {path : Path} (hmem : path ∈ paths) :
    ∃ left ∈ dropRepeats paths, path.same left = true := by
  induction paths with
  | nil => exact absurd hmem List.not_mem_nil
  | cons first paths ih =>
    rw [dropRepeats_cons]
    cases hrest : dropRepeats paths with
    | nil =>
      rcases List.mem_cons.mp hmem with rfl | hmem
      · exact ⟨path, List.mem_singleton_self _, Path.same_iff.mpr rfl⟩
      · obtain ⟨left, hleft, -⟩ := ih hmem
        rw [hrest] at hleft
        exact absurd hleft List.not_mem_nil
    | cons next rest =>
      by_cases hfirst : first.same next = true
      · simp only [hfirst, if_true]
        rcases List.mem_cons.mp hmem with rfl | hmem
        · exact ⟨path, List.mem_cons_self, Path.same_iff.mpr rfl⟩
        · obtain ⟨left, hleft, hsame⟩ := ih hmem
          rw [hrest] at hleft
          rcases List.mem_cons.mp hleft with rfl | hleft
          · -- the one that was left is dropped for the first
            refine ⟨first, List.mem_cons_self, ?_⟩
            rw [Path.same_iff] at hfirst hsame ⊢
            exact hsame.trans hfirst.symm
          · exact ⟨left, List.mem_cons_of_mem _ hleft, hsame⟩
      · simp only [hfirst]
        rcases List.mem_cons.mp hmem with rfl | hmem
        · exact ⟨path, List.mem_cons_self, Path.same_iff.mpr rfl⟩
        · obtain ⟨left, hleft, hsame⟩ := ih hmem
          rw [hrest] at hleft
          exact ⟨left, List.mem_cons_of_mem _ hleft, hsame⟩

/-! ### The paths in order -/

/-- The list names each of the paths once, in order. -/
structure Lists (listed paths : List Path) : Prop where
  increasing : listed.Pairwise fun a b => a.cmp b = .lt
  mem : ∀ path ∈ listed, path ∈ paths
  covers : ∀ path ∈ paths, ∃ same ∈ listed, path.same same = true

theorem orderedPaths_lists (paths : List Path) : Lists (orderedPaths paths) paths := by
  have hle : (fun a b : Path => a.cmp b != .gt) = fun a b => (a.cmp b).isLE := by
    funext a b
    exact Ordering.isLE_eq_not_beq_gt.symm
  have hsorted : (paths.mergeSort fun a b => (a.cmp b).isLE).Pairwise
      fun a b => (a.cmp b).isLE = true :=
    List.pairwise_mergeSort (fun a b c => Std.TransCmp.isLE_trans) isLE_or_isLE paths
  rw [orderedPaths, hle]
  refine ⟨dropRepeats_pairwise hsorted, fun path hmem => ?_, fun path hmem => ?_⟩
  · exact List.mem_mergeSort.mp ((dropRepeats_sublist _).mem hmem)
  · exact exists_same_mem_dropRepeats (List.mem_mergeSort.mpr hmem)

namespace Lists

variable {listed paths : List Path}

/-- A list of paths is as long as there are distinct paths among them. -/
theorem length_eq (h : Lists listed paths) :
    listed.length = (paths.map Path.components).toFinset.card := by
  have hdistinct : (listed.map Path.components).Nodup := by
    refine List.pairwise_map.mpr (h.increasing.imp fun {a b} hlt hsame => ?_)
    rw [Path.cmp_eq_eq_iff.mpr (Path.same_iff.mpr hsame)] at hlt
    exact absurd hlt nofun
  have hsame : (listed.map Path.components).toFinset = (paths.map Path.components).toFinset := by
    ext components
    rw [List.mem_toFinset, List.mem_toFinset, List.mem_map, List.mem_map]
    constructor
    · rintro ⟨path, hmem, rfl⟩
      exact ⟨path, h.mem path hmem, rfl⟩
    · rintro ⟨path, hmem, rfl⟩
      obtain ⟨same, hin, hsame⟩ := h.covers path hmem
      exact ⟨same, hin, (Path.same_iff.mp hsame).symm⟩
  rw [← hsame, List.toFinset_card_of_nodup hdistinct, List.length_map]

/-- Where the same paths are written in the same way, the list names the paths as they are given. -/
theorem mem_iff (h : Lists listed paths)
    (hwritten : ∀ a ∈ paths, ∀ b ∈ paths, a.same b = true → a = b) (path : Path) :
    path ∈ listed ↔ path ∈ paths := by
  refine ⟨h.mem path, fun hmem => ?_⟩
  obtain ⟨same, hin, hsame⟩ := h.covers path hmem
  rw [hwritten path hmem same (h.mem same hin) hsame]
  exact hin

/-- Two lists in order are equal if they name the same. -/
theorem ext {other paths' : List Path} (h : Lists listed paths) (h' : Lists other paths')
    (hmem : ∀ path, path ∈ listed ↔ path ∈ other) : listed = other := by
  have hperm : listed.Perm other :=
    (List.perm_ext_iff_of_nodup (h.increasing.imp Path.ne_of_cmp_lt)
      (h'.increasing.imp Path.ne_of_cmp_lt)).mpr hmem
  refine hperm.eq_of_pairwise (fun a b _ _ hab hba => ?_) h.increasing h'.increasing
  exact absurd rfl (Path.ne_of_cmp_lt (Std.TransCmp.lt_trans hab hba))

end Lists

/-- **The order in which paths are given does not matter**, nor how often each is, where the same
paths are written in the same way. -/
theorem orderedPaths_congr {paths paths' : List Path}
    (hwritten : ∀ a ∈ paths, ∀ b ∈ paths, a.same b = true → a = b)
    (hmem : ∀ path, path ∈ paths' ↔ path ∈ paths) : orderedPaths paths' = orderedPaths paths := by
  have hwritten' : ∀ a ∈ paths', ∀ b ∈ paths', a.same b = true → a = b := by
    intro a ha b hb
    exact hwritten a ((hmem a).mp ha) b ((hmem b).mp hb)
  refine (orderedPaths_lists paths').ext (orderedPaths_lists paths) fun path => ?_
  rw [(orderedPaths_lists paths').mem_iff hwritten', (orderedPaths_lists paths).mem_iff hwritten]
  exact hmem path

end Acquisition
