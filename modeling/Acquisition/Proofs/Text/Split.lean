import Acquisition.Text.Split
import Mathlib.Data.List.TakeDrop
import Mathlib.Data.List.TakeWhile

/-!
# Texts taken apart

## Main results

* `pieces_append`: a text is taken apart at each of its marks.
* `pieces_intercalate`: parts without a mark, joined by it, come apart again.
* `splitFirst?_eq_some_iff`: a text is cut at the first of its marks.
* `dropBeginning?_eq_some_iff`: what stands behind a fixed beginning.
-/

namespace Acquisition.Text

/-! ### Pieces -/

theorem pieces_ne_nil (mark : Char) (text : List Char) : pieces mark text ≠ [] := by
  cases text with
  | nil => exact List.cons_ne_nil _ _
  | cons c text =>
    rw [pieces]
    split
    · exact List.cons_ne_nil _ _
    · split <;> exact List.cons_ne_nil _ _

/-- A text without the mark is one piece. -/
theorem pieces_of_not_mem {mark : Char} {text : List Char} (h : mark ∉ text) :
    pieces mark text = [text] := by
  induction text with
  | nil => rfl
  | cons c text ih =>
    rw [List.mem_cons, not_or] at h
    have hc : (c == mark) = false := beq_eq_false_iff_ne.mpr (Ne.symm h.1)
    rw [pieces, hc, ih h.2]
    rfl

/-- **A text is taken apart at each of its marks.** -/
theorem pieces_append (mark : Char) (front rest : List Char) :
    pieces mark (front ++ mark :: rest) = pieces mark front ++ pieces mark rest := by
  induction front with
  | nil => simp [pieces]
  | cons c front ih =>
    by_cases hc : (c == mark) = true
    · rw [List.cons_append, pieces, if_pos hc, ih, pieces, if_pos hc, List.cons_append]
    · rw [List.cons_append, pieces, if_neg hc, ih, pieces, if_neg hc]
      cases hpieces : pieces mark front with
      | nil => exact absurd hpieces (pieces_ne_nil mark front)
      | cons piece more => rfl

/-- No piece has a mark. -/
theorem not_mem_of_mem_pieces {mark : Char} {text : List Char} :
    ∀ {piece : List Char}, piece ∈ pieces mark text → mark ∉ piece := by
  induction text with
  | nil =>
    intro piece hmem
    rw [List.mem_singleton.mp hmem]
    exact List.not_mem_nil
  | cons c text ih =>
    intro piece hmem
    rw [pieces] at hmem
    split at hmem
    · rcases List.mem_cons.mp hmem with rfl | hmem
      · exact List.not_mem_nil
      · exact ih hmem
    · next hc =>
      have hne : mark ≠ c := fun h => hc (beq_iff_eq.mpr h.symm)
      -- the character goes to the first of the pieces behind it
      cases hpieces : pieces mark text with
      | nil => exact absurd hpieces (pieces_ne_nil mark text)
      | cons first more =>
        rw [hpieces] at hmem ih
        rcases List.mem_cons.mp hmem with rfl | hmem
        · exact List.not_mem_cons_of_ne_of_not_mem hne (ih List.mem_cons_self)
        · exact ih (List.mem_cons_of_mem first hmem)

theorem pieces_eq_splitOn (mark : Char) (text : List Char) :
    pieces mark text = text.splitOn mark := by
  induction text with
  | nil => rfl
  | cons c text ih =>
    have hsplit : (c :: text).splitOn mark =
        if c == mark then [] :: text.splitOn mark
        else (text.splitOn mark).modifyHead (List.cons c) :=
      List.splitOnP_cons_eq_if_modifyHead c text
    rw [pieces, ih, hsplit]
    split
    · rfl
    · cases hrest : text.splitOn mark with
      | nil => exact absurd (ih.trans hrest) (pieces_ne_nil mark text)
      | cons piece more => rfl

/-- **Parts without a mark, joined by it, come apart again.** -/
theorem pieces_intercalate {mark : Char} {parts : List (List Char)}
    (hplain : ∀ part ∈ parts, mark ∉ part) (hne : parts ≠ []) :
    pieces mark ([mark].intercalate parts) = parts := by
  rw [pieces_eq_splitOn]
  exact List.splitOn_intercalate mark hplain hne

/-! ### The first mark -/

/-- **A text is cut at the first of its marks.** -/
theorem splitFirst?_eq_some_iff {mark : Char} {text before after : List Char} :
    splitFirst? mark text = some (before, after) ↔
      text = before ++ mark :: after ∧ mark ∉ before := by
  rw [splitFirst?, List.span_eq_takeWhile_dropWhile]
  have hsplit : text.takeWhile (· != mark) ++ text.dropWhile (· != mark) = text :=
    List.takeWhile_append_dropWhile
  have hbefore : mark ∉ text.takeWhile (· != mark) := by
    intro hmem
    simpa using List.mem_takeWhile_imp hmem
  constructor
  · intro h
    cases hrest : text.dropWhile (· != mark) with
    | nil => simp [hrest] at h
    | cons c rest =>
      -- the first character that is not taken is the mark
      have hc : c = mark := by
        have hne : text.dropWhile (· != mark) ≠ [] := by simp [hrest]
        simpa [hrest] using List.head_dropWhile_not (· != mark) hne
      simp only [hrest, Option.some.injEq, Prod.mk.injEq] at h
      obtain ⟨rfl, rfl⟩ := h
      rw [hrest, hc] at hsplit
      exact ⟨hsplit.symm, hbefore⟩
  · rintro ⟨rfl, hplain⟩
    have hall : ∀ c ∈ before, (c != mark) = true := by
      intro c hc
      exact bne_iff_ne.mpr fun heq => hplain (heq ▸ hc)
    rw [List.takeWhile_append_of_pos hall, List.dropWhile_append_of_pos hall,
      List.takeWhile_cons_of_neg (by simp), List.dropWhile_cons_of_neg (by simp), List.append_nil]

/-! ### Fixed beginnings -/

/-- **What stands behind a fixed beginning.** -/
theorem dropBeginning?_eq_some_iff {beginning : String} {text rest : List Char} :
    dropBeginning? beginning text = some rest ↔ text = beginning.toList ++ rest := by
  rw [dropBeginning?]
  constructor
  · intro h
    split at h
    · next hprefix =>
      obtain ⟨back, rfl⟩ := List.isPrefixOf_iff_prefix.mp hprefix
      rw [List.drop_left, Option.some.injEq] at h
      rw [h]
    · exact absurd h nofun
  · rintro rfl
    rw [if_pos (List.isPrefixOf_iff_prefix.mpr ⟨rest, rfl⟩), List.drop_left]

end Acquisition.Text
