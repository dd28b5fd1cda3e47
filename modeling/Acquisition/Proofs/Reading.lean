import Mathlib.Data.List.Forall2

/-!
# Reading one after the other

A list is read element by element, and the first one that cannot be read ends it.  What was read
stands in step with what it was read from.

## Main definitions

* `FirstWithout`: an element is the first for which something does not hold.

## Main results

* `mapM_eq_ok_iff`, `mapM_eq_error_iff`: all elements are read, or the first that is not decides.
* `exists_split_of_forall₂`, `sublist_iff_of_forall₂`: places and selections in lists that stand in
  step.
-/

namespace Acquisition

section Reading

variable {α β ε : Type}

/-! ### The first of its kind -/

section FirstWithout

variable {good : α → Prop} {l : List α} {a : α}

/-- The element is the first of the list for which something does not hold. -/
def FirstWithout (good : α → Prop) (l : List α) (a : α) : Prop :=
  ∃ front back, l = front ++ a :: back ∧ (∀ b ∈ front, good b) ∧ ¬ good a

theorem FirstWithout.cons_iff {b : α} : FirstWithout good (b :: l) a ↔
    (¬ good b ∧ a = b) ∨ (good b ∧ FirstWithout good l a) := by
  constructor
  · rintro ⟨_ | ⟨c, front⟩, back, hsplit, hfront, ha⟩
    · obtain ⟨rfl, rfl⟩ := List.cons.inj hsplit
      exact Or.inl ⟨ha, rfl⟩
    · obtain ⟨rfl, rfl⟩ := List.cons.inj hsplit
      obtain ⟨hb, hfront⟩ := List.forall_mem_cons.mp hfront
      exact Or.inr ⟨hb, front, back, rfl, hfront, ha⟩
  · rintro (⟨hb, rfl⟩ | ⟨hb, front, back, rfl, hfront, ha⟩)
    · exact ⟨[], l, rfl, List.forall_mem_nil _, hb⟩
    · exact ⟨b :: front, back, rfl, List.forall_mem_cons.mpr ⟨hb, hfront⟩, ha⟩

theorem FirstWithout.not_forall (h : FirstWithout good l a) : ¬ ∀ b ∈ l, good b := by
  obtain ⟨front, back, rfl, -, ha⟩ := h
  exact fun hall => ha (hall a (List.mem_append_right _ List.mem_cons_self))

theorem FirstWithout.append (h : FirstWithout good l a) (more : List α) :
    FirstWithout good (l ++ more) a := by
  obtain ⟨front, back, rfl, hfront, ha⟩ := h
  exact ⟨front, back ++ more, by simp, hfront, ha⟩

end FirstWithout

/-! ### All or the first fault -/

section MapM

variable {f : α → Except ε β} {l : List α}

theorem mapM_cons_eq (a : α) (l : List α) : (a :: l).mapM f = match f a with
    | .error error => .error error
    | .ok b => match l.mapM f with
      | .error error => .error error
      | .ok bs => .ok (b :: bs) := by
  rw [List.mapM_cons]
  cases f a with
  | error error => rfl
  | ok b => cases l.mapM f <;> simp [bind, Except.bind, pure, Except.pure]

/-- All elements are read exactly if each of them is. -/
theorem mapM_eq_ok_iff {bs : List β} :
    l.mapM f = .ok bs ↔ List.Forall₂ (fun a b => f a = .ok b) l bs := by
  induction l generalizing bs with
  | nil =>
    rw [List.mapM_nil, List.forall₂_nil_left_iff]
    exact ⟨fun h => (Except.ok.inj h).symm, fun h => h ▸ rfl⟩
  | cons a l ih =>
    rw [mapM_cons_eq, List.forall₂_cons_left_iff]
    cases hhead : f a with
    | error error => simp
    | ok b =>
      cases hrest : l.mapM f with
      | error error => simp [← ih, hrest]
      | ok others => simp [← ih, hrest, eq_comm]

/-- **The first element that is not read decides on the error.** -/
theorem mapM_eq_error_iff {error : ε} : l.mapM f = .error error ↔
    ∃ a, FirstWithout (fun a => ∃ b, f a = .ok b) l a ∧ f a = .error error := by
  induction l with
  | nil =>
    rw [List.mapM_nil]
    refine iff_of_false nofun ?_
    rintro ⟨a, ⟨_ | ⟨b, front⟩, back, hsplit, -⟩, -⟩ <;> exact absurd hsplit nofun
  | cons b l ih =>
    simp only [FirstWithout.cons_iff]
    rw [mapM_cons_eq]
    cases hhead : f b with
    | error fault => simp [hhead]
    | ok c =>
      cases hrest : l.mapM f with
      | error fault => simp [← ih, hrest]
      | ok others => simp [← ih, hrest]

end MapM

/-! ### Lists in step -/

section InStep

variable {R : α → β → Prop} {as : List α} {bs : List β}

/-- A place in the first list has its counterpart in the second. -/
theorem exists_split_of_forall₂ {front back : List α} {a : α}
    (h : List.Forall₂ R (front ++ a :: back) bs) :
    ∃ before b after, bs = before ++ b :: after ∧ List.Forall₂ R front before ∧ R a b ∧
      List.Forall₂ R back after := by
  induction front generalizing bs with
  | nil =>
    obtain ⟨b, after, hb, hafter, rfl⟩ := List.forall₂_cons_left_iff.mp h
    exact ⟨[], b, after, rfl, .nil, hb, hafter⟩
  | cons c front ih =>
    obtain ⟨d, rest, hd, hrest, rfl⟩ := List.forall₂_cons_left_iff.mp h
    obtain ⟨before, b, after, rfl, hbefore, hb, hafter⟩ := ih hrest
    exact ⟨d :: before, b, after, rfl, .cons hd hbefore, hb, hafter⟩

theorem exists_mem_of_forall₂ (h : List.Forall₂ R as bs) {a : α} (ha : a ∈ as) :
    ∃ b, R a b ∧ b ∈ bs := by
  obtain ⟨front, back, rfl⟩ := List.append_of_mem ha
  obtain ⟨before, b, after, rfl, -, hb, -⟩ := exists_split_of_forall₂ h
  exact ⟨b, hb, List.mem_append_right _ List.mem_cons_self⟩

theorem exists_mem_left_of_forall₂ (h : List.Forall₂ R as bs) {b : β} (hb : b ∈ bs) :
    ∃ a, R a b ∧ a ∈ as :=
  exists_mem_of_forall₂ (List.Forall₂.flip h : List.Forall₂ (flip R) bs as) hb

/-- The first element without a property stands where its counterpart is the first without it. -/
theorem FirstWithout.exists_of_forall₂ {good : α → Prop} {sound : β → Prop} {b : β}
    (hgood : ∀ a b, R a b → (good a ↔ sound b)) (hstep : List.Forall₂ R as bs)
    (h : FirstWithout sound bs b) : ∃ a, R a b ∧ FirstWithout good as a := by
  obtain ⟨before, after, rfl, hbefore, hb⟩ := h
  have hflip : List.Forall₂ (flip R) (before ++ b :: after) as := List.Forall₂.flip hstep
  obtain ⟨front, a, back, rfl, hfront, ha, -⟩ := exists_split_of_forall₂ hflip
  refine ⟨a, ha, front, back, rfl, fun c hc => ?_, mt (hgood a b ha).mp hb⟩
  obtain ⟨d, hcd, hd⟩ := exists_mem_of_forall₂ hfront.flip hc
  exact (hgood c d hcd).mpr (hbefore d hd)

/-- Of two lists in step, what is picked of the first has its counterpart in the second. -/
theorem sublistForall₂_of_forall₂ (h : List.Forall₂ R as bs) {picked : List α}
    (hpicked : picked.Sublist as) : List.SublistForall₂ R picked bs := by
  induction h generalizing picked with
  | nil => exact List.sublist_nil.mp hpicked ▸ .nil
  | cons hhead _ ih =>
    cases hpicked with
    | cons _ hpicked => exact .cons_right (ih hpicked)
    | cons_cons _ hpicked => exact .cons hhead (ih hpicked)

/-- **What is picked of the second list was read from what is picked of the first.** -/
theorem sublist_iff_of_forall₂ (hunique : Relator.RightUnique R) (h : List.Forall₂ R as bs)
    {picked : List β} :
    picked.Sublist bs ↔ ∃ names, names.Sublist as ∧ List.Forall₂ R names picked := by
  constructor
  · intro hpicked
    have hflip : List.Forall₂ (flip R) bs as := List.Forall₂.flip h
    obtain ⟨names, hread, hnames⟩ :=
      List.sublistForall₂_iff.mp (sublistForall₂_of_forall₂ hflip hpicked)
    exact ⟨names, hnames, hread.flip⟩
  · rintro ⟨names, hnames, hread⟩
    obtain ⟨others, hothers, hsub⟩ :=
      List.sublistForall₂_iff.mp (sublistForall₂_of_forall₂ h hnames)
    rwa [List.right_unique_forall₂' hunique hread hothers]

end InStep

end Reading

end Acquisition
