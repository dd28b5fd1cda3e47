import Acquisition.Proofs.Name.Release
import Mathlib.Data.List.Basic

/-!
# Underscores in release names

An underscore is a word character, so a word may have underscores in it.  What is read from the
normal form of a name does not see them.  The revision is read from the name as it stands: there a
word with an underscore is no token, whatever words it would fall into at its underscores.

## Main definitions

* `withSpaces`: a name with a space for each underscore.
* `HidesNoRevision`: nothing about the revision stands between underscores.

## Main results

* `wordRuns_underscoresToSpaces`: the words fall into pieces at their underscores.
* `reads_withSpaces`: all but the revision is the same for a name with spaces, and just when it is
  the revision as well.
-/

namespace Acquisition.Name

open Text

/-! ### Spaces for underscores -/

/-- A text with a space for each underscore. -/
def underscoresToSpaces (text : List Char) : List Char :=
  text.map fun c => if c == '_' then ' ' else c

/-- A name with a space for each underscore. -/
def withSpaces (title : String) : String :=
  String.ofList (underscoresToSpaces title.toList)

theorem underscoresToSpaces_append (front tail : List Char) :
    underscoresToSpaces (front ++ tail) = underscoresToSpaces front ++ underscoresToSpaces tail :=
  List.map_append

theorem underscoresToSpaces_cons_of_ne {c : Char} (hc : c ≠ '_') (text : List Char) :
    underscoresToSpaces (c :: text) = c :: underscoresToSpaces text := by
  simp [underscoresToSpaces, hc]

theorem underscoresToSpaces_of_not_mem {text : List Char} (h : '_' ∉ text) :
    underscoresToSpaces text = text := by
  induction text with
  | nil => rfl
  | cons c text ih =>
    rw [List.mem_cons, not_or] at h
    rw [underscoresToSpaces_cons_of_ne (Ne.symm h.1), ih h.2]

/-- The normal form has no underscores to begin with. -/
theorem normalize_underscoresToSpaces (text : List Char) :
    normalize (underscoresToSpaces text) = normalize text := by
  have hspaced : spaced (underscoresToSpaces text) = spaced text := by
    unfold spaced underscoresToSpaces
    rw [List.map_map]
    refine List.map_congr_left fun c _ => ?_
    by_cases hc : c = '_'
    · rw [hc]; rfl
    · simp [hc]
  rw [normalize_eq, hspaced, normalize_eq]

/-- A text with underscores or with spaces is no extension. -/
theorem extensionQuality?_underscoresToSpaces (extension : List Char) :
    extensionQuality? (underscoresToSpaces extension) = extensionQuality? extension := by
  by_cases hmem : '_' ∈ extension
  · have hspace : ' ' ∈ underscoresToSpaces extension :=
      List.mem_map.mpr ⟨'_', hmem, rfl⟩
    have hnone : ∀ {c : Char} {text : List Char}, c.isAlphanum = false → c ∈ text →
        extensionQuality? text = none := by
      intro c text hc hmem
      rw [Option.eq_none_iff_forall_ne_some]
      exact fun quality h => not_mem_of_extensionQuality? hc h hmem
    rw [hnone (by decide) hspace, hnone (by decide) hmem]
  · rw [underscoresToSpaces_of_not_mem hmem]

theorem dot_mem_underscoresToSpaces {text : List Char} (h : '.' ∈ underscoresToSpaces text) :
    '.' ∈ text := by
  obtain ⟨c, hc, hdot⟩ := List.mem_map.mp h
  split at hdot
  · exact absurd hdot (by decide)
  · exact hdot ▸ hc

/-- A name is cut at the same place. -/
theorem splitExtension_underscoresToSpaces (title : List Char) :
    splitExtension (underscoresToSpaces title) =
      (underscoresToSpaces (splitExtension title).1, (splitExtension title).2) := by
  rcases not_mem_or_exists_last '.' title with hdot | ⟨stem, extension, hdot, rfl⟩
  · have hspaced : '.' ∉ underscoresToSpaces title := mt dot_mem_underscoresToSpaces hdot
    unfold splitExtension
    rw [splitLast?_of_not_mem hdot, splitLast?_of_not_mem hspaced]
  · have hspaced : '.' ∉ underscoresToSpaces extension := mt dot_mem_underscoresToSpaces hdot
    have htitle : underscoresToSpaces (stem ++ '.' :: extension) =
        underscoresToSpaces stem ++ '.' :: underscoresToSpaces extension := by
      rw [underscoresToSpaces_append, underscoresToSpaces_cons_of_ne (by decide)]
    unfold splitExtension
    rw [htitle, splitLast?_append hdot, splitLast?_append hspaced]
    dsimp only
    rw [extensionQuality?_underscoresToSpaces, ← htitle]
    cases extensionQuality? extension <;> rfl

/-! ### Words with underscores -/

/-- **The words of a text fall into pieces at their underscores.** -/
theorem wordRuns_underscoresToSpaces (text : List Char) :
    wordRuns (underscoresToSpaces text) = (wordRuns text).flatMap (pieces '_') := by
  have hrun : ∀ {word}, IsRun word → wordRuns (underscoresToSpaces word) = pieces '_' word := by
    intro word hword
    induction word using pieces_induction (· == '_') with
    | piece word hplain =>
      have hmark : '_' ∉ word := fun hmem => absurd (hplain '_' hmem) (by decide)
      rw [underscoresToSpaces_of_not_mem hmark, hword.wordRuns_eq, pieces_of_not_mem hmark]
    | append front mark tail hplain hmark ih =>
      obtain rfl : mark = '_' := eq_of_beq hmark
      have hfront : '_' ∉ front := fun hmem => absurd (hplain '_' hmem) (by decide)
      have hspace : underscoresToSpaces ('_' :: tail) = ' ' :: underscoresToSpaces tail := rfl
      obtain ⟨hfrontRun, htailRun⟩ := List.forall_mem_append.mp hword
      rw [underscoresToSpaces_append, hspace, wordRuns_append (by decide),
        ih fun c hc => htailRun c (List.mem_cons_of_mem _ hc),
        underscoresToSpaces_of_not_mem hfront, IsRun.wordRuns_eq hfrontRun, pieces_append,
        pieces_of_not_mem hfront]
  induction text using runs_induction with
  | run text htext => rw [hrun htext, htext.wordRuns_eq, List.flatMap_singleton]
  | append front stop tail hfront hstop ih =>
    have hne : stop ≠ '_' := by
      rintro rfl
      exact absurd hstop (by decide)
    rw [underscoresToSpaces_append, underscoresToSpaces_cons_of_ne hne, wordRuns_append hstop,
      hrun hfront, ih, wordRuns_append hstop, hfront.wordRuns_eq, List.flatMap_append,
      List.flatMap_singleton]

/-- The words that have no underscore. -/
def openWords (words : List (List Char)) : List (List Char) :=
  words.filter fun word => !word.contains '_'

/-- A word with an underscore is in no vocabulary of words without underscores. -/
theorem lookUpWords_openWords {α : Type} {vocabulary : Vocabulary α} (h : vocabulary.Plain)
    (hspelling : ∀ entry ∈ vocabulary, entry.1.toList.any (sameLetter · '_') = false)
    (text : List Char) :
    lookUpWords vocabulary (openWords (wordRuns text)) = lookUpWords vocabulary (wordRuns text) := by
  unfold lookUpWords openWords
  rw [List.filterMap_filter]
  refine List.filterMap_congr fun word hword => ?_
  by_cases hmark : '_' ∈ word
  · have hnone := h.find?_eq_none (isRun_of_mem_wordRuns hword) hmark hspelling
    simp [hmark, hnone]
  · simp [hmark]

theorem toldVersion_openWords (text : List Char) :
    toldVersion (openWords (wordRuns text)) = toldVersion (wordRuns text) := by
  unfold toldVersion
  rw [lookUpWords_openWords versions_plain (by decide),
    lookUpWords_openWords redone_plain (by decide)]

/-- A token is found more often among the pieces, if it is one of those between underscores. -/
theorem count_pieces_eq_iff {token : List Char} (htoken : '_' ∉ token) (words : List (List Char)) :
    words.count token ≤ (words.flatMap (pieces '_')).count token ∧
      ((words.flatMap (pieces '_')).count token = words.count token ↔
        ∀ word ∈ words, '_' ∈ word → token ∉ pieces '_' word) := by
  induction words with
  | nil => simp
  | cons word words ih =>
    obtain ⟨hle, hiff⟩ := ih
    rw [List.flatMap_cons, List.count_append, List.forall_mem_cons, ← hiff]
    by_cases hmark : '_' ∈ word
    · have hne : word ≠ token := fun heq => htoken (heq ▸ hmark)
      have hzero := List.count_eq_zero (a := token) (l := pieces '_' word)
      rw [List.count_cons_of_ne hne, ← hzero]
      constructor
      · omega
      · constructor
        · intro h
          exact ⟨fun _ => by omega, by omega⟩
        · rintro ⟨hpieces, hwords⟩
          have hpieces := hpieces hmark
          omega
    · rw [pieces_of_not_mem hmark, List.count_cons, List.count_singleton]
      constructor
      · omega
      · constructor
        · intro h
          exact ⟨fun h => absurd h hmark, by omega⟩
        · rintro ⟨-, hwords⟩
          omega

/-! ### What a name with underscores says -/

/-- Nothing about the revision stands between underscores: no word with an underscore has `REAL` for
one of its pieces, and the pieces tell the version that the words without underscores tell. -/
def HidesNoRevision (text : List Char) : Prop :=
  (∀ word ∈ wordRuns text, '_' ∈ word → "REAL".toList ∉ pieces '_' word) ∧
    toldVersion ((wordRuns text).flatMap (pieces '_')) = toldVersion (openWords (wordRuns text))

theorem detectRevision_underscoresToSpaces_iff (text : List Char) :
    detectRevision (underscoresToSpaces text) = detectRevision text ↔ HidesNoRevision text := by
  have hplain : '_' ∉ "REAL".toList := by decide
  have hreal := (count_pieces_eq_iff hplain (wordRuns text)).2
  unfold HidesNoRevision
  rw [detectRevision_eq, detectRevision_eq, wordRuns_underscoresToSpaces, toldVersion_openWords,
    ← hreal, toldRevision, toldRevision, Revision.mk.injEq, and_comm]

/-- **All but the revision is the same for a name with spaces**, and the revision is the same just
when none of it stands between underscores.  The model that is read of a title alone is no
different. -/
theorem reads_withSpaces (title : String) :
    ((ParsedRelease.ofTitle (withSpaces title)).quality.quality =
        (ParsedRelease.ofTitle title).quality.quality ∧
      (ParsedRelease.ofTitle (withSpaces title)).year = (ParsedRelease.ofTitle title).year ∧
      (ParsedRelease.ofTitle (withSpaces title)).mediaTitle =
        (ParsedRelease.ofTitle title).mediaTitle ∧
      (ParsedRelease.ofTitle (withSpaces title)).languages =
        (ParsedRelease.ofTitle title).languages) ∧
    ((ParsedRelease.ofTitle (withSpaces title)).quality.revision =
        (ParsedRelease.ofTitle title).quality.revision ↔
      HidesNoRevision (splitExtension title.toList).1) ∧
    (qualityOfTitle (withSpaces title) = qualityOfTitle title ↔
      HidesNoRevision (splitExtension title.toList).1) := by
  have hsplit : splitExtension (withSpaces title).toList =
      (underscoresToSpaces (splitExtension title.toList).1, (splitExtension title.toList).2) := by
    rw [withSpaces, String.toList_ofList, splitExtension_underscoresToSpaces]
  have hnormal := normalize_underscoresToSpaces (splitExtension title.toList).1
  have hrevision := detectRevision_underscoresToSpaces_iff (splitExtension title.toList).1
  rw [qualityOfTitle_eq, qualityOfTitle_eq]
  unfold ParsedRelease.ofTitle
  rw [hsplit]
  dsimp only
  rw [hnormal, QualityModel.mk.injEq, ← hrevision]
  exact ⟨⟨rfl, rfl, rfl, rfl⟩, Iff.rfl, and_iff_right rfl⟩

/-- A redone release goes unseen behind an underscore. -/
theorem not_revision_withSpaces : ¬ ∀ title,
    (ParsedRelease.ofTitle (withSpaces title)).quality.revision =
      (ParsedRelease.ofTitle title).quality.revision := by
  intro hsame
  have hproper := hsame "Movie_2020_PROPER_720p_HDTV"
  revert hproper
  decide +kernel

end Acquisition.Name
