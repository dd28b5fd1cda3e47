import Acquisition.Proofs.Name.Token

/-!
# Tokens that are words

A spelling without a dash is a word, and its tokens are whole words of a text.  Such a vocabulary is
looked up word by word, where the words of a text are its runs of word characters.

## Main definitions

* `wordRuns`: the runs of word characters of a text.
* `Vocabulary.Plain`: all spellings are words.

## Main results

* `Vocabulary.Plain.values_eq`: a vocabulary of plain words is looked up word by word.
* `Vocabulary.Plain.find?_eq_none`: a word with a character that is in no spelling is no token.
-/

namespace Acquisition.Name

open Text

/-! ### Words -/

/-- The runs of word characters of a text; between two other characters stands an empty one. -/
def wordRuns (text : List Char) : List (List Char) :=
  text.splitOnP fun c => !isWordChar c

/-- The text is one word, or empty. -/
def IsRun (text : List Char) : Prop :=
  ∀ c ∈ text, isWordChar c = true

theorem wordRuns_append {stop : Char} (hstop : isWordChar stop = false) (front tail : List Char) :
    wordRuns (front ++ stop :: tail) = wordRuns front ++ wordRuns tail :=
  List.splitOnP_append_cons front tail (by simp [hstop])

theorem IsRun.wordRuns_eq {word : List Char} (h : IsRun word) : wordRuns word = [word] :=
  List.splitOnP_eq_singleton fun c hc => by simp [h c hc]

/-- A text is made up from the left of pieces without marks, with a mark behind each but the last. -/
theorem pieces_induction (isMark : Char → Bool) {motive : List Char → Prop}
    (piece : ∀ text, (∀ c ∈ text, isMark c = false) → motive text)
    (append : ∀ front mark tail, (∀ c ∈ front, isMark c = false) → isMark mark = true →
      motive tail → motive (front ++ mark :: tail)) (text : List Char) : motive text := by
  -- the piece that was read so far stands before the text
  suffices h : ∀ front, (∀ c ∈ front, isMark c = false) → motive (front ++ text) from
    h [] fun c hc => absurd hc List.not_mem_nil
  induction text with
  | nil =>
    intro front hfront
    rw [List.append_nil]
    exact piece front hfront
  | cons c text ih =>
    intro front hfront
    by_cases hc : isMark c = true
    · exact append front c text hfront hc (ih [] fun c hc => absurd hc List.not_mem_nil)
    · have hplain : ∀ d ∈ front ++ [c], isMark d = false :=
        List.forall_mem_append.mpr ⟨hfront, by simpa using hc⟩
      have hlonger := ih (front ++ [c]) hplain
      rwa [List.append_assoc, List.singleton_append] at hlonger

/-- A text is made up of runs of word characters and other characters. -/
theorem runs_induction {motive : List Char → Prop} (run : ∀ text, IsRun text → motive text)
    (append : ∀ front stop tail, IsRun front → isWordChar stop = false → motive tail →
      motive (front ++ stop :: tail)) (text : List Char) : motive text := by
  induction text using pieces_induction (fun c => !isWordChar c) with
  | piece text htext => exact run text fun c hc => by simpa using htext c hc
  | append front mark tail hfront hmark ih =>
    exact append front mark tail (fun c hc => by simpa using hfront c hc) (by simpa using hmark) ih

theorem isRun_of_mem_wordRuns {text word : List Char} (h : word ∈ wordRuns text) : IsRun word := by
  induction text using runs_induction with
  | run text hrun =>
    rw [hrun.wordRuns_eq, List.mem_singleton] at h
    rwa [h]
  | append front stop tail hfront hstop ih =>
    rw [wordRuns_append hstop, hfront.wordRuns_eq, List.singleton_append, List.mem_cons] at h
    rcases h with rfl | h
    · exact hfront
    · exact ih h

/-! ### Vocabularies of plain words -/

/-- All spellings are words. -/
def Vocabulary.Plain {α : Type} (vocabulary : Vocabulary α) : Prop :=
  ∀ entry ∈ vocabulary, entry.1.toList ≠ [] ∧ entry.1.toList.all isWordChar = true

/-- Only word characters are compared with success to word characters. -/
def KeepsWords (same : Char → Char → Bool) : Prop :=
  ∀ letter c, isWordChar letter = true → isWordChar c = false → same letter c = false

theorem beq_of_wordChar {c d : Char} (hc : isWordChar c = false) (hd : isWordChar d = true) :
    (c == d) = false := by
  rw [beq_eq_false_iff_ne]
  rintro rfl
  rw [hd] at hc
  exact absurd hc nofun

theorem keepsWords_beq : KeepsWords (· == ·) := by
  intro letter c hletter hc
  show (letter == c) = false
  rw [BEq.comm]
  exact beq_of_wordChar hc hletter

theorem isWordChar_of_not_ascii {c : Char} (h : ¬ c.val < 128) : isWordChar c =
    wordCharRanges.toList.any fun range => range.1 ≤ c.toNat && c.toNat ≤ range.2 := by
  rw [isWordChar, if_neg h, inRanges, ← Array.any_toList]

theorem isWordChar_kelvin : isWordChar '\u212A' = true := by
  rw [isWordChar_of_not_ascii (by decide)]
  decide +kernel

theorem isWordChar_longS : isWordChar '\u017F' = true := by
  rw [isWordChar_of_not_ascii (by decide)]
  decide +kernel

theorem keepsWords_sameLetter : KeepsWords sameLetter := by
  intro letter c hletter hc
  have hlower : isWordChar c.toLower = false := by rw [isWordChar_toLower, hc]
  unfold sameLetter
  rw [beq_of_wordChar hlower hletter, beq_of_wordChar hc isWordChar_kelvin,
    beq_of_wordChar hc isWordChar_longS]
  simp

section Plain

variable {α : Type} {vocabulary : Vocabulary α} {same : Char → Char → Bool}

theorem Vocabulary.Plain.stopsAt (h : vocabulary.Plain) (hsame : KeepsWords same) {stop : Char}
    (hstop : isWordChar stop = false) : (vocabulary.reads same).StopsAt stop := by
  refine Vocabulary.stopsAt hstop ?_ fun entry hentry => (h entry hentry).1
  intro entry hentry
  have hletters := List.all_eq_true.mp (h entry hentry).2
  rw [List.any_eq_false]
  intro letter hletter
  rw [hsame letter stop (hletters letter hletter) hstop]
  exact nofun

/-- Inside a word no token begins. -/
theorem occurrencesFrom_run (vocabulary : Vocabulary α) {text : List Char} (h : IsRun text) :
    ∀ start skip before, isWordChar before = true →
      occurrencesFrom (vocabulary.reads same) start skip (some before) text = [] := by
  induction text with
  | nil => exact fun _ _ _ _ => rfl
  | cons c text ih =>
    obtain ⟨hc, htext⟩ := List.forall_mem_cons.mp h
    intro start skip before hbefore
    have hread : vocabulary.reads same (some before) (c :: text) = none := by
      simp [Vocabulary.reads, isBoundary, isWordPlace, hbefore, hc]
    cases skip with
    | succ skip => exact ih htext _ _ _ hc
    | zero =>
      rw [occurrencesFrom, hread]
      exact ih htext _ _ _ hc

/-- A word is a token, or holds none. -/
theorem Vocabulary.Plain.values_run (h : vocabulary.Plain) {word : List Char} (hword : IsRun word) :
    values (vocabulary.reads same) word = ((vocabulary.find? same word).map (·.1)).toList := by
  cases word with
  | nil =>
    have hnil : vocabulary.find? same [] = none :=
      List.findSome?_eq_none_iff.mpr fun entry hentry => readEntry?_nil (h entry hentry).1
    rw [hnil]
    rfl
  | cons c text =>
    obtain ⟨hc, htext⟩ := List.forall_mem_cons.mp hword
    have hread : vocabulary.reads same none (c :: text) = vocabulary.find? same (c :: text) := by
      simp [Vocabulary.reads, isBoundary, isWordPlace, hc]
    have hrest : ∀ start skip,
        occurrencesFrom (vocabulary.reads same) start skip (some c) text = [] :=
      fun start skip => occurrencesFrom_run vocabulary htext start skip c hc
    unfold values occurrences
    rw [occurrencesFrom, hread]
    cases vocabulary.find? same (c :: text) with
    | none => simp [hrest]
    | some token => simp [hrest]

/-- **A vocabulary of plain words is looked up word by word.** -/
theorem Vocabulary.Plain.values_eq (h : vocabulary.Plain) (hsame : KeepsWords same)
    (text : List Char) : values (vocabulary.reads same) text =
      (wordRuns text).filterMap fun word => (vocabulary.find? same word).map (·.1) := by
  have hrun : ∀ {word}, IsRun word → values (vocabulary.reads same) word =
      (wordRuns word).filterMap fun word => (vocabulary.find? same word).map (·.1) := by
    intro word hword
    rw [h.values_run hword, hword.wordRuns_eq, List.filterMap_cons]
    cases (vocabulary.find? same word).map (·.1) <;> rfl
  induction text using runs_induction with
  | run text htext => exact hrun htext
  | append front stop tail hfront hstop ih =>
    rw [values_append (h.stopsAt hsame hstop), hrun hfront, ih, wordRuns_append hstop,
      List.filterMap_append]

/-! ### Words that are no token -/

theorem suffix_of_dropSpelling {spelling text rest : List Char}
    (h : dropSpelling same spelling text = some rest) : rest <:+ text := by
  induction spelling generalizing text with
  | nil =>
    rw [dropSpelling, Option.some.injEq] at h
    exact h ▸ List.suffix_rfl
  | cons letter spelling ih =>
    cases text with
    | nil => cases h
    | cons c text =>
      simp only [dropSpelling] at h
      split at h
      · exact (ih h).trans (List.suffix_cons c text)
      · cases h

/-- What is read in a word is the whole word. -/
theorem Vocabulary.Plain.exists_of_find?_run (h : vocabulary.Plain) {word : List Char}
    (hword : IsRun word) {token : α × Nat} (hfind : vocabulary.find? same word = some token) :
    ∃ entry ∈ vocabulary, dropSpelling same entry.1.toList word = some [] := by
  obtain ⟨entry, hentry, hread⟩ := List.exists_of_findSome?_eq_some hfind
  obtain ⟨⟨rest, hdrop, hboundary⟩, -⟩ := readEntry?_eq_some_iff.mp hread
  obtain ⟨hne, hletters⟩ := h entry hentry
  refine ⟨entry, hentry, ?_⟩
  cases rest with
  | nil => exact hdrop
  | cons c rest =>
    -- the spelling would end between two word characters
    have hc : isWordChar c = true := hword c ((suffix_of_dropSpelling hdrop).subset List.mem_cons_self)
    have hlast := List.all_eq_true.mp hletters _ (List.getLast_mem hne)
    rw [List.getLast?_eq_some_getLast hne] at hboundary
    simp [isBoundary, isWordPlace, hlast, hc] at hboundary

/-- A word with a character that is in no spelling is no token. -/
theorem Vocabulary.Plain.find?_eq_none (h : vocabulary.Plain) {word : List Char}
    (hword : IsRun word) {mark : Char} (hmark : mark ∈ word)
    (hspelling : ∀ entry ∈ vocabulary, entry.1.toList.any (same · mark) = false) :
    vocabulary.find? same word = none := by
  rw [Option.eq_none_iff_forall_ne_some]
  intro token hfind
  obtain ⟨entry, hentry, hdrop⟩ := h.exists_of_find?_run hword hfind
  obtain ⟨front, tail, rfl⟩ := List.append_of_mem hmark
  rw [dropSpelling_append (hspelling entry hentry)] at hdrop
  cases hfront : dropSpelling same entry.1.toList front with
  | none => simp [hfront] at hdrop
  | some rest => simp [hfront] at hdrop

/-- Spelled exactly, a text begins with its spelling. -/
theorem dropSpelling_beq {spelling text rest : List Char} :
    dropSpelling (· == ·) spelling text = some rest ↔ text = spelling ++ rest := by
  induction spelling generalizing text with
  | nil => simp [dropSpelling]
  | cons letter spelling ih =>
    cases text with
    | nil => simp [dropSpelling]
    | cons c text =>
      by_cases hc : letter = c
      · simp [dropSpelling, hc, ih]
      · simp [dropSpelling, hc, Ne.symm hc]

end Plain

end Acquisition.Name
