import Acquisition.Name.Release
import Acquisition.Proofs.Name.Word
import Acquisition.Proofs.Path

/-!
# What a release name is read from

A title is cut at its media extension, and brought into normal form.  The revision is told by words
of the title as it stands.

## Main definitions

* `toldRevision`: the revision that words tell.

## Main results

* `splitExtension_append`: a media extension in any case is cut off.
* `splitExtension_cases`: no title is cut anywhere else.
* `normalize_dot`, `normalize_append`: the normal form of a title in two parts, and of a title and
  one more word.
* `detectRevision_eq`: the revision is told by the words of a text.
* `qualityOfTitle_eq`: an extension tells no revision.
-/

namespace Acquisition.Name

open Text

/-! ### The last mark of a text -/

theorem splitLast?_append {c : Char} {after : List Char} (h : c ∉ after) (before : List Char) :
    splitLast? c (before ++ c :: after) = some (before, after) := by
  unfold splitLast?
  rw [span_reverse h]
  simp

/-- A text without the mark, or what stands before and behind its last one. -/
theorem not_mem_or_exists_last (c : Char) (text : List Char) :
    c ∉ text ∨ ∃ before after, c ∉ after ∧ text = before ++ c :: after := by
  by_cases hmem : c ∈ text.reverse
  · obtain ⟨after, before, htext, hafter⟩ := List.eq_append_cons_of_mem hmem
    refine Or.inr ⟨before.reverse, after.reverse, fun h => hafter (List.mem_reverse.mp h), ?_⟩
    rw [← List.reverse_reverse text, htext]
    simp
  · exact Or.inl fun h => hmem (List.mem_reverse.mpr h)

theorem splitLast?_of_not_mem {c : Char} {text : List Char} (h : c ∉ text) :
    splitLast? c text = none := by
  have hplain : ∀ d ∈ text.reverse, (d != c) = true := by
    intro d hd
    exact bne_iff_ne.mpr fun heq => h (heq ▸ List.mem_reverse.mp hd)
  have hdrop : text.reverse.dropWhile (· != c) = [] := List.dropWhile_eq_nil_iff.mpr hplain
  unfold splitLast?
  rw [List.span_eq_takeWhile_dropWhile, hdrop]

/-! ### Media extensions -/

/-- A media extension is one of the known ones in any case. -/
theorem exists_of_extensionQuality? {extension : List Char} {quality : Quality}
    (h : extensionQuality? extension = some quality) :
    ∃ entry ∈ extensionQualities, extension.map Char.toLower = entry.1.toList := by
  obtain ⟨entry, hfind, -⟩ := Option.map_eq_some_iff.mp h
  have hknown : (entry.1.toList == extension.map Char.toLower) = true := by
    simpa only using List.find?_some hfind
  exact ⟨entry, List.mem_of_find?_eq_some hfind, (eq_of_beq hknown).symm⟩

/-- What the lower case of a text says about it is checked of the known extensions. -/
theorem of_extensionQuality? {p : List Char → Prop}
    (hknown : ∀ entry ∈ extensionQualities, p entry.1.toList) {extension : List Char}
    {quality : Quality} (h : extensionQuality? extension = some quality) :
    p (extension.map Char.toLower) := by
  obtain ⟨entry, hentry, hlower⟩ := exists_of_extensionQuality? h
  exact hlower ▸ hknown entry hentry

/-- A media extension consists of letters and digits. -/
theorem isAlphanum_of_extensionQuality? {extension : List Char} {quality : Quality}
    (h : extensionQuality? extension = some quality) : ∀ c ∈ extension, c.isAlphanum = true := by
  have hlower := of_extensionQuality? (p := fun text => text.all Char.isAlphanum = true) (by decide) h
  have hcase : ∀ c : Char, c.toLower.isAlphanum = c.isAlphanum :=
    apply_toLower (f := Char.isAlphanum) (by decide)
  intro c hc
  rw [← hcase]
  exact List.all_eq_true.mp hlower c.toLower (List.mem_map_of_mem hc)

theorem ne_nil_of_extensionQuality? {extension : List Char} {quality : Quality}
    (h : extensionQuality? extension = some quality) : extension ≠ [] := by
  have hlower := of_extensionQuality? (p := fun text => text ≠ []) (by decide) h
  rintro rfl
  exact hlower rfl

theorem not_mem_of_extensionQuality? {extension : List Char} {quality : Quality} {c : Char}
    (hc : c.isAlphanum = false) (h : extensionQuality? extension = some quality) : c ∉ extension := by
  intro hmem
  rw [isAlphanum_of_extensionQuality? h c hmem] at hc
  exact absurd hc nofun

/-- **A media extension in any case is cut off.** -/
theorem splitExtension_append {extension : List Char} {quality : Quality}
    (h : extensionQuality? extension = some quality) (stem : List Char) :
    splitExtension (stem ++ '.' :: extension) = (stem, some quality) := by
  have hdot := not_mem_of_extensionQuality? (c := '.') (by decide) h
  unfold splitExtension
  rw [splitLast?_append hdot]
  dsimp only
  rw [h]

/-- **No title is cut anywhere else.** -/
theorem splitExtension_cases (title : List Char) :
    splitExtension title = (title, none) ∨
      ∃ stem extension quality, extensionQuality? extension = some quality ∧
        title = stem ++ '.' :: extension ∧ splitExtension title = (stem, some quality) := by
  rcases not_mem_or_exists_last '.' title with hdot | ⟨stem, extension, hdot, rfl⟩
  · left
    unfold splitExtension
    rw [splitLast?_of_not_mem hdot]
  · cases hquality : extensionQuality? extension with
    | none =>
      left
      unfold splitExtension
      rw [splitLast?_append hdot]
      dsimp only
      rw [hquality]
    | some quality =>
      exact Or.inr ⟨stem, extension, quality, hquality, rfl, splitExtension_append hquality stem⟩

/-! ### Normal form -/

theorem wordsFrom_append {c : Char} (hc : isBlank c = true) (front tail : List Char) :
    ∀ current, wordsFrom current (front ++ c :: tail) = wordsFrom current front ++ words tail := by
  induction front with
  | nil =>
    intro current
    simp only [List.nil_append, wordsFrom, hc, if_true, words]
    split <;> rfl
  | cons d front ih =>
    intro current
    simp only [List.cons_append, wordsFrom, ih]
    split
    · split <;> rfl
    · rfl

/-- A text is taken apart into words at each of its blanks. -/
theorem words_append {c : Char} (hc : isBlank c = true) (front tail : List Char) :
    words (front ++ c :: tail) = words front ++ words tail :=
  wordsFrom_append hc front tail []

theorem wordsFrom_of_plain {word : List Char} (h : ∀ c ∈ word, isBlank c = false) :
    ∀ current, current ++ word ≠ [] → wordsFrom current word = [current.reverse ++ word] := by
  induction word with
  | nil =>
    intro current hne
    have hcurrent : current ≠ [] := by simpa using hne
    simp [wordsFrom, hcurrent]
  | cons c word ih =>
    obtain ⟨hc, hword⟩ := List.forall_mem_cons.mp h
    intro current _
    have hrest := ih hword (c :: current) (by simp)
    simp [wordsFrom, hc, hrest]

theorem words_of_plain {word : List Char} (h : ∀ c ∈ word, isBlank c = false) (hne : word ≠ []) :
    words word = [word] :=
  wordsFrom_of_plain h [] hne

theorem isBlank_of_isAlphanum {c : Char} (h : c.isAlphanum = true) : isBlank c = false :=
  of_ascii (p := fun c => c.isAlphanum = true → isBlank c = false) (by decide)
    (toNat_lt_of_isAlphanum h) h

/-- A word is not empty and has no blank in it. -/
theorem plain_of_mem_words {text word : List Char} (h : word ∈ words text) :
    word ≠ [] ∧ ∀ c ∈ word, isBlank c = false := by
  have hpiece : ∀ {piece}, (∀ c ∈ piece, isBlank c = false) → word ∈ words piece →
      word ≠ [] ∧ ∀ c ∈ word, isBlank c = false := by
    intro piece hplain hmem
    by_cases hne : piece = []
    · rw [hne] at hmem
      exact absurd hmem List.not_mem_nil
    · rw [words_of_plain hplain hne, List.mem_singleton] at hmem
      rw [hmem]
      exact ⟨hne, hplain⟩
  induction text using pieces_induction isBlank with
  | piece text hplain => exact hpiece hplain h
  | append front mark tail hplain hmark ih =>
    rw [words_append hmark, List.mem_append] at h
    exact h.elim (hpiece hplain) ih

/-- The words of two lists with a separator between them. -/
theorem intercalate_append {separator : List Char} {front tail : List (List Char)}
    (hfront : front ≠ []) (htail : tail ≠ []) :
    separator.intercalate (front ++ tail) =
      separator.intercalate front ++ separator ++ separator.intercalate tail := by
  induction front with
  | nil => exact absurd rfl hfront
  | cons first front ih =>
    cases front with
    | nil =>
      obtain ⟨next, tail, rfl⟩ := List.exists_cons_of_ne_nil htail
      simp [List.intercalate_cons_cons]
    | cons second front =>
      have hrest := ih (List.cons_ne_nil _ _)
      simp only [List.cons_append] at hrest ⊢
      rw [List.intercalate_cons_cons, List.intercalate_cons_cons, hrest]
      simp

/-- What a name is made of before its blanks are counted. -/
def spaced (text : List Char) : List Char :=
  text.map fun c => if c == '.' || c == '_' then ' ' else c

theorem normalize_eq (text : List Char) : normalize text = [' '].intercalate (words (spaced text)) :=
  rfl

theorem words_spaced_dot (front tail : List Char) :
    words (spaced (front ++ '.' :: tail)) = words (spaced front) ++ words (spaced tail) := by
  have htext : spaced (front ++ '.' :: tail) = spaced front ++ ' ' :: spaced tail := by
    simp [spaced]
  rw [htext, words_append (by decide)]

theorem normalize_eq_nil_iff {text : List Char} : normalize text = [] ↔ words (spaced text) = [] := by
  constructor
  · intro h
    cases hwords : words (spaced text) with
    | nil => rfl
    | cons word more =>
      have hne := (plain_of_mem_words (hwords ▸ List.mem_cons_self : word ∈ words (spaced text))).1
      rw [normalize_eq, hwords] at h
      cases more <;> simp_all [List.intercalate_cons_cons]
  · intro h
    rw [normalize_eq, h]
    rfl

/-- **The normal form of a title in two parts**, neither of them blank. -/
theorem normalize_dot {front tail : List Char} (hfront : normalize front ≠ [])
    (htail : normalize tail ≠ []) :
    normalize (front ++ '.' :: tail) = normalize front ++ ' ' :: normalize tail := by
  rw [ne_eq, normalize_eq_nil_iff] at hfront htail
  rw [normalize_eq, words_spaced_dot, intercalate_append hfront htail, normalize_eq, normalize_eq]
  simp

/-- A blank part behind a dot does not count. -/
theorem normalize_dot_of_blank {tail : List Char} (h : normalize tail = []) (front : List Char) :
    normalize (front ++ '.' :: tail) = normalize front := by
  rw [normalize_eq_nil_iff] at h
  rw [normalize_eq, words_spaced_dot, h, List.append_nil, normalize_eq]

/-- A word of letters and digits is in normal form. -/
theorem normalize_of_isAlphanum {word : List Char} (hword : ∀ c ∈ word, c.isAlphanum = true)
    (hne : word ≠ []) : normalize word = word := by
  have hspaced : spaced word = word := by
    unfold spaced
    refine (List.map_congr_left fun c hc => ?_).trans (List.map_id' word)
    have hplain : (c == '.' || c == '_') = false :=
      of_ascii (p := fun c => c.isAlphanum = true → (c == '.' || c == '_') = false) (by decide)
        (toNat_lt_of_isAlphanum (hword c hc)) (hword c hc)
    rw [hplain]
    rfl
  rw [normalize_eq, hspaced, words_of_plain (fun c hc => isBlank_of_isAlphanum (hword c hc)) hne]
  simp

/-- **The normal form of a title and one more word**, for a title that is not blank. -/
theorem normalize_append {stem word : List Char} (hstem : normalize stem ≠ [])
    (hword : ∀ c ∈ word, c.isAlphanum = true) (hne : word ≠ []) :
    normalize (stem ++ '.' :: word) = normalize stem ++ ' ' :: word := by
  have hnormal := normalize_of_isAlphanum hword hne
  rw [normalize_dot hstem (hnormal.symm ▸ hne), hnormal]

/-! ### Revisions -/

/-- The words of a vocabulary among some words. -/
def lookUpWords {α : Type} (vocabulary : Vocabulary α) (words : List (List Char)) : List α :=
  words.filterMap fun word => (vocabulary.find? sameLetter word).map (·.1)

/-- The version that words tell. -/
def toldVersion (words : List (List Char)) : Nat :=
  (lookUpWords versions words).head?.getD (if (lookUpWords redone words).isEmpty then 1 else 2)

/-- The revision that words tell. -/
def toldRevision (words : List (List Char)) : Revision where
  version := toldVersion words
  real := words.count "REAL".toList

theorem redone_plain : redone.Plain := by
  unfold Vocabulary.Plain
  decide

theorem versions_plain : versions.Plain := by
  unfold Vocabulary.Plain
  decide

theorem realFix_plain : realFix.Plain := by
  unfold Vocabulary.Plain
  decide

theorem find?_realFix_isSome {word : List Char} (h : IsRun word) :
    (realFix.find? (· == ·) word).isSome = (word == "REAL".toList) := by
  rw [Bool.eq_iff_iff, beq_iff_eq]
  constructor
  · intro hsome
    obtain ⟨token, hfind⟩ := Option.isSome_iff_exists.mp hsome
    obtain ⟨entry, hentry, hdrop⟩ := realFix_plain.exists_of_find?_run h hfind
    rw [dropSpelling_beq, List.append_nil] at hdrop
    rw [List.mem_singleton.mp hentry] at hdrop
    exact hdrop
  · rintro rfl
    decide

/-- **The revision is told by the words of a text.** -/
theorem detectRevision_eq (text : List Char) :
    detectRevision text = toldRevision (wordRuns text) := by
  have hredone : values redone.recogniser text = lookUpWords redone (wordRuns text) :=
    redone_plain.values_eq keepsWords_sameLetter text
  have hversions : values versions.recogniser text = lookUpWords versions (wordRuns text) :=
    versions_plain.values_eq keepsWords_sameLetter text
  have hreal : (values realFix.exactRecogniser text).length =
      (wordRuns text).count "REAL".toList := by
    have hvalues := realFix_plain.values_eq keepsWords_beq text
    have hexact : realFix.exactRecogniser = realFix.reads (· == ·) := rfl
    rw [hexact, hvalues, List.length_filterMap_eq_countP, List.count]
    refine List.countP_congr fun word hword => ?_
    rw [Option.isSome_map, find?_realFix_isSome (isRun_of_mem_wordRuns hword)]
  unfold detectRevision toldRevision toldVersion
  rw [hredone, hversions, hreal]

/-- Whether an extension is a token is checked of the known ones. -/
theorem find?_extension {α : Type} {vocabulary : Vocabulary α}
    (hknown : ∀ entry ∈ extensionQualities, vocabulary.find? sameLetter entry.1.toList = none)
    {extension : List Char} {quality : Quality} (h : extensionQuality? extension = some quality) :
    vocabulary.find? sameLetter extension = none := by
  rw [← Vocabulary.find?_map_toLower]
  exact of_extensionQuality? (p := fun text => vocabulary.find? sameLetter text = none) hknown h

/-- A media extension tells no revision. -/
theorem detectRevision_append {extension : List Char} {quality : Quality}
    (h : extensionQuality? extension = some quality) (stem : List Char) :
    detectRevision (stem ++ '.' :: extension) = detectRevision stem := by
  have hrun : IsRun extension := by
    have hlower := of_extensionQuality? (p := fun text => text.all isWordChar = true) (by decide) h
    intro c hc
    rw [← isWordChar_toLower]
    exact List.all_eq_true.mp hlower c.toLower (List.mem_map_of_mem hc)
  have hreal : [extension].count "REAL".toList = 0 := by
    have hlower := of_extensionQuality? (p := fun text => text ≠ "real".toList) (by decide) h
    rw [List.count_eq_zero, List.mem_singleton]
    rintro rfl
    exact hlower rfl
  have hversion : versions.find? sameLetter extension = none := find?_extension (by decide) h
  have hredone : redone.find? sameLetter extension = none := find?_extension (by decide) h
  rw [detectRevision_eq, detectRevision_eq, wordRuns_append (by decide), hrun.wordRuns_eq]
  unfold toldRevision toldVersion lookUpWords
  rw [List.count_append, hreal, List.filterMap_append, List.filterMap_append]
  simp [hversion, hredone]

/-- **The quality model of a title is the one that is read with the rest of it.** -/
theorem qualityOfTitle_eq (title : String) :
    qualityOfTitle title = (ParsedRelease.ofTitle title).quality := by
  unfold qualityOfTitle ParsedRelease.ofTitle
  rcases splitExtension_cases title.toList with hsplit | ⟨stem, extension, quality, hext, htitle, hsplit⟩
  · rw [hsplit]
  · rw [hsplit]
    dsimp only
    rw [htitle, detectRevision_append hext]

end Acquisition.Name
