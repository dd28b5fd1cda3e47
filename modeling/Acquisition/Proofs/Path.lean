import Acquisition.Path
import Acquisition.Proofs.Text.Split

/-!
# Names of files at paths

## Main results

* `fileName?_join`: what a path is joined with, if it is a name, is the file name.
* `exists_parent?`: a path with a file name lies in a folder.
* `splitName_append`: a file name is cut at its last dot.
-/

namespace Acquisition

namespace Text

/-! ### The last mark -/

/-- A text is cut at the last of its marks. -/
theorem span_reverse {c : Char} {after : List Char} (h : c ∉ after) (before : List Char) :
    (before ++ c :: after).reverse.span (· != c) = (after.reverse, c :: before.reverse) := by
  have hplain : ∀ d ∈ after.reverse, (d != c) = true := by
    intro d hd
    exact bne_iff_ne.mpr fun heq => h (heq ▸ List.mem_reverse.mp hd)
  have htext : (before ++ c :: after).reverse = after.reverse ++ c :: before.reverse := by simp
  rw [htext, List.span_eq_takeWhile_dropWhile, List.takeWhile_append_of_pos hplain,
    List.dropWhile_append_of_pos hplain, List.takeWhile_cons_of_neg (by simp),
    List.dropWhile_cons_of_neg (by simp), List.append_nil]

end Text

namespace Path

open Text

/-! ### File names -/

/-- The piece of a name is a component. -/
theorem componentOf?_eq_name {piece : List Char} (hne : piece ≠ []) (hcurrent : piece ≠ ['.'])
    (hparent : piece ≠ ['.', '.']) : componentOf? piece = some (.name (String.ofList piece)) := by
  have hidle : isIdle piece = false := by
    rw [isIdle, beq_eq_false_iff_ne.mpr hcurrent, Bool.or_false, List.isEmpty_eq_false_iff]
    exact hne
  rw [componentOf?, hidle, beq_eq_false_iff_ne.mpr hparent]
  rfl

/-- Behind a folder the last piece is the name. -/
theorem exists_layout_pieces {folder name : List Char} (hslash : '/' ∉ name)
    (hcurrent : name ≠ ['.']) (hfolder : folder = [] ∨ ∃ above, folder = above ++ ['/']) :
    ∃ above, (layout ⟨String.ofList (folder ++ name)⟩).pieces = above ++ [name] := by
  -- whatever a slash stands behind, the pieces are cut there
  have hpieces : ∀ above, pieces '/' (above ++ '/' :: name) = pieces '/' above ++ [name] := by
    intro above
    rw [pieces_append, pieces_of_not_mem hslash]
  rw [layout, String.toList_ofList]
  rcases hfolder with rfl | ⟨above, rfl⟩
  · rw [List.nil_append]
    split
    · next rest => exact absurd List.mem_cons_self hslash
    · exact absurd rfl hcurrent
    · next rest => exact absurd (List.mem_cons_of_mem _ List.mem_cons_self) hslash
    · exact ⟨[], pieces_of_not_mem hslash⟩
  · have htext : above ++ ['/'] ++ name = above ++ '/' :: name := by simp
    rw [htext]
    split
    · next rest heq =>
      cases above with
      | nil =>
        obtain ⟨-, rfl⟩ := List.cons.inj heq
        exact ⟨[], pieces_of_not_mem hslash⟩
      | cons c above =>
        obtain ⟨-, rfl⟩ := List.cons.inj heq
        exact ⟨_, hpieces above⟩
    · next heq =>
      have hmem : '/' ∈ ['.'] := heq ▸ List.mem_append_right above List.mem_cons_self
      exact absurd hmem (by decide)
    · next rest heq =>
      match above, heq with
      | [c], heq =>
        obtain ⟨-, heq⟩ := List.cons.inj heq
        obtain ⟨-, rfl⟩ := List.cons.inj heq
        exact ⟨[[]], congrArg ([] :: ·) (pieces_of_not_mem hslash)⟩
      | c :: d :: above, heq =>
        obtain ⟨-, heq⟩ := List.cons.inj heq
        obtain ⟨-, rfl⟩ := List.cons.inj heq
        exact ⟨[] :: pieces '/' above, congrArg ([] :: ·) (hpieces above)⟩
    · exact ⟨_, hpieces above⟩

/-- What a path is joined with stands behind nothing or behind a slash. -/
theorem exists_join_eq (folder : Path) {name : String} (hslash : '/' ∉ name.toList) :
    ∃ above : List Char, (above = [] ∨ ∃ front, above = front ++ ['/']) ∧
      folder.join name = ⟨String.ofList (above ++ name.toList)⟩ := by
  have hrelative : (name.toList.head? == some '/') = false := by
    rw [beq_eq_false_iff_ne]
    exact fun hhead => hslash (List.mem_of_mem_head? hhead)
  rw [join, hrelative, if_neg (by decide)]
  split
  · next hopen =>
    refine ⟨folder.text.toList, ?_, by rw [String.ofList_append]; simp⟩
    rcases Bool.or_eq_true _ _ |>.mp hopen with hempty | hlast
    · exact Or.inl (by simpa using hempty)
    · exact Or.inr ((List.getLast?_eq_some_iff).mp (eq_of_beq hlast))
  · exact ⟨folder.text.toList ++ ['/'], Or.inr ⟨_, rfl⟩,
      by rw [String.ofList_append, String.ofList_append]; simp⟩

/-- **What a path is joined with, if it is a name, is the file name.** -/
theorem fileName?_join (folder : Path) {name : String} (hslash : '/' ∉ name.toList)
    (hne : name.toList ≠ []) (hcurrent : name.toList ≠ ['.']) (hparent : name.toList ≠ ['.', '.']) :
    (folder.join name).fileName? = some name := by
  obtain ⟨above, habove, hjoin⟩ := exists_join_eq folder hslash
  obtain ⟨front, hpieces⟩ := exists_layout_pieces hslash hcurrent habove
  have hcomponents : (folder.join name).components.getLast? = some (.name name) := by
    rw [hjoin, components, hpieces, List.filterMap_append, List.filterMap_cons,
      componentOf?_eq_name hne hcurrent hparent, String.ofList_toList]
    simp
  rw [fileName?, hcomponents]

/-- The head of a layout is no name. -/
theorem head_layout_ne_name (path : Path) (name : String) :
    path.layout.head ≠ some (.name name) := by
  unfold layout
  split <;> nofun

/-- A path with a file name lies in a folder. -/
theorem exists_parent? {path : Path} {name : String} (h : path.fileName? = some name) :
    ∃ folder, path.parent? = some folder := by
  rw [parent?]
  cases hpieces : path.layout.pieces.reverse.dropWhile isIdle with
  | cons piece above => exact ⟨_, rfl⟩
  | nil =>
    -- without a piece that is a component the head would be the file name
    have hnone : path.layout.pieces.filterMap componentOf? = [] := by
      rw [List.filterMap_eq_nil_iff]
      intro piece hpiece
      have hidle := List.dropWhile_eq_nil_iff.mp hpieces piece (List.mem_reverse.mpr hpiece)
      rw [componentOf?, if_pos hidle]
    rw [fileName?, components, hnone, List.append_nil] at h
    cases hhead : path.layout.head with
    | none => simp [hhead] at h
    | some head =>
      cases head with
      | name text => exact absurd hhead (head_layout_ne_name path text)
      | root | current | parent => simp [hhead] at h

/-- **A file name is cut at its last dot**, if something stands before that. -/
theorem splitName_append {stem after : List Char} (hstem : stem ≠ []) (hafter : '.' ∉ after) :
    splitName (String.ofList (stem ++ '.' :: after)) =
      (String.ofList stem, some (String.ofList after)) := by
  rw [splitName, String.toList_ofList, span_reverse hafter]
  cases hreverse : stem.reverse with
  | nil => exact absurd (List.reverse_eq_nil_iff.mp hreverse) hstem
  | cons c before =>
    have hback : (c :: before).reverse = stem := by rw [← hreverse, List.reverse_reverse]
    simp [hback]

end Path

end Acquisition
