import Acquisition.Name.Token
import Acquisition.Proofs.Text.Case

/-!
# Spellings and tokens in a text

A text may be read piece by piece: no token reaches over a character that is neither a word
character nor in a spelling, and behind it the text is read as if it began there.

## Main definitions

* `Recogniser.StopsAt`: no token reaches over a character.
* `Recogniser.IgnoresCase`: the case of ASCII letters does not count.

## Main results

* `occurrences_append`: the tokens before and behind a character that no token reaches over.
* `occurrences_map_toLower`: the lower case of a text has the same tokens.
* `Vocabulary.stopsAt`: what no token of a vocabulary reaches over.
-/

namespace Acquisition.Name

open Text

/-! ### Spellings -/

section Spellings

variable {same : Char → Char → Bool} {spelling : List Char} {stop : Char}

/-- A spelling is read no further than a character that is in no spelling. -/
theorem dropSpelling_append (hstop : spelling.any (same · stop) = false)
    (front tail : List Char) : dropSpelling same spelling (front ++ stop :: tail) =
      (dropSpelling same spelling front).map (· ++ stop :: tail) := by
  induction spelling generalizing front with
  | nil => simp [dropSpelling]
  | cons letter spelling ih =>
    rw [List.any_cons, Bool.or_eq_false_iff] at hstop
    obtain ⟨hletter, hrest⟩ := hstop
    cases front with
    | nil => simp [dropSpelling, hletter]
    | cons c front =>
      simp only [List.cons_append, dropSpelling]
      split
      · exact ih hrest front
      · rfl

end Spellings

/-- A letter of ASCII in either case is the same as that letter only. -/
theorem sameLetter_eq {letter c : Char} (h : c.toLower.isLower = true) :
    sameLetter letter c = (c.toLower == letter) := by
  have hkelvin : (c == '\u212A') = false := by
    rw [beq_eq_false_iff_ne]
    rintro rfl
    exact absurd h (by decide)
  have hlong : (c == '\u017F') = false := by
    rw [beq_eq_false_iff_ne]
    rintro rfl
    exact absurd h (by decide)
  rw [sameLetter, hkelvin, hlong, Bool.and_false, Bool.and_false, Bool.or_false, Bool.or_false]

/-- A word in either case is spelled by its lower case. -/
theorem dropSpelling_toLower {token : List Char}
    (htoken : ∀ c ∈ token, c.toLower.isLower = true) (rest : List Char) :
    dropSpelling sameLetter (token.map Char.toLower) (token ++ rest) = some rest := by
  induction token with
  | nil => rfl
  | cons c token ih =>
    obtain ⟨hc, htoken⟩ := List.forall_mem_cons.mp htoken
    rw [List.map_cons, List.cons_append, dropSpelling, sameLetter_eq hc, beq_self_eq_true,
      if_pos rfl, ih htoken]

/-- What else is spelled at the front of a text that begins with a word begins with the lower case
of the word, or is its beginning. -/
theorem prefix_or_prefix_of_dropSpelling {token spelling rest read : List Char}
    (htoken : ∀ c ∈ token, c.toLower.isLower = true)
    (h : dropSpelling sameLetter spelling (token ++ rest) = some read) :
    spelling <+: token.map Char.toLower ∨ token.map Char.toLower <+: spelling := by
  induction token generalizing spelling with
  | nil => exact Or.inr (List.nil_prefix)
  | cons c token ih =>
    obtain ⟨hc, htoken⟩ := List.forall_mem_cons.mp htoken
    cases spelling with
    | nil => exact Or.inl (List.nil_prefix)
    | cons letter spelling =>
      rw [List.cons_append, dropSpelling, sameLetter_eq hc] at h
      split at h
      · next hletter =>
        rw [List.map_cons, eq_of_beq hletter, List.cons_prefix_cons, List.cons_prefix_cons]
        exact (ih htoken h).imp (And.intro rfl) (And.intro rfl)
      · exact absurd h nofun

/-! ### Tokens in front of a character and behind it -/

/-- The place of a token in a text that `passed` more characters stand before. -/
def Occurrence.shift {α : Type} (passed : Nat) (token : Occurrence α) : Occurrence α :=
  { token with start := token.start + passed }

/-- No token reaches over the character, and behind it a text is read as from its beginning. -/
structure Recogniser.StopsAt {α : Type} (read : Recogniser α) (stop : Char) : Prop where
  /-- A token lies in the text it is read from. -/
  fits : ∀ {before c text value length}, read before (c :: text) = some (value, length) →
    length ≤ text.length + 1
  /-- What is behind the character does not count in front of it. -/
  front : ∀ before c front tail, read before (c :: (front ++ stop :: tail)) = read before (c :: front)
  /-- No token begins with the character. -/
  absent : ∀ before tail, read before (stop :: tail) = none
  /-- The character before a text counts no more than the beginning of a text. -/
  behind : ∀ text, read (some stop) text = read none text

section Stops

variable {α : Type} {read : Recogniser α} {stop : Char}

theorem occurrencesFrom_shift (read : Recogniser α) (passed : Nat) (text : List Char) :
    ∀ start skip before, occurrencesFrom read (start + passed) skip before text =
      (occurrencesFrom read start skip before text).map (·.shift passed) := by
  induction text with
  | nil => exact fun _ _ _ => rfl
  | cons c text ih =>
    intro start skip before
    have hstart : start + passed + 1 = start + 1 + passed := by omega
    cases skip with
    | succ skip => simp only [occurrencesFrom, hstart, ih]
    | zero =>
      simp only [occurrencesFrom, hstart]
      cases read before (c :: text) with
      | none => simp only [ih]
      | some token => simp only [ih, List.map_cons]; rfl

theorem occurrencesFrom_append (h : read.StopsAt stop) (tail front : List Char) :
    ∀ start skip before, skip ≤ front.length →
      occurrencesFrom read start skip before (front ++ stop :: tail) =
        occurrencesFrom read start skip before front ++
          occurrencesFrom read (start + front.length + 1) 0 (some stop) tail := by
  induction front with
  | nil =>
    intro start skip before hskip
    have hnone : skip = 0 := by simpa using hskip
    simp [hnone, occurrencesFrom, h.absent]
  | cons c front ih =>
    intro start skip before hskip
    have hlength : start + (c :: front).length + 1 = start + 1 + front.length + 1 := by
      simp only [List.length_cons]; omega
    rw [hlength]
    cases skip with
    | succ skip =>
      simp only [List.cons_append, occurrencesFrom]
      exact ih _ _ _ (by simpa using hskip)
    | zero =>
      simp only [List.cons_append, occurrencesFrom, h.front]
      cases hread : read before (c :: front) with
      | none => exact ih _ _ _ (Nat.zero_le _)
      | some token =>
        have hfits := h.fits hread
        simp only [List.cons_append]
        rw [ih _ _ _ (by omega)]

theorem occurrencesFrom_behind (h : read.StopsAt stop) (start : Nat) (text : List Char) :
    occurrencesFrom read start 0 (some stop) text = occurrencesFrom read start 0 none text := by
  cases text with
  | nil => rfl
  | cons c text => simp only [occurrencesFrom, h.behind]

/-- **The tokens before and behind a character that no token reaches over.** -/
theorem occurrences_append (h : read.StopsAt stop) (front tail : List Char) :
    occurrences read (front ++ stop :: tail) =
      occurrences read front ++ (occurrences read tail).map (·.shift (front.length + 1)) := by
  have hlength : 0 + front.length + 1 = 0 + (front.length + 1) := by omega
  unfold occurrences
  rw [occurrencesFrom_append h tail front 0 0 none (Nat.zero_le _), occurrencesFrom_behind h,
    hlength, occurrencesFrom_shift]

theorem values_append (h : read.StopsAt stop) (front tail : List Char) :
    values read (front ++ stop :: tail) = values read front ++ values read tail := by
  unfold values
  rw [occurrences_append h, List.map_append, List.map_map]
  rfl

/-- A token begins in the text. -/
theorem start_lt_of_mem_occurrencesFrom {read : Recogniser α} {token : Occurrence α}
    (text : List Char) : ∀ start skip before, token ∈ occurrencesFrom read start skip before text →
      token.start < start + text.length := by
  induction text with
  | nil => exact fun _ _ _ h => absurd h List.not_mem_nil
  | cons c text ih =>
    intro start skip before h
    have hlater : ∀ skip, token ∈ occurrencesFrom read (start + 1) skip (some c) text →
        token.start < start + (c :: text).length := by
      intro skip hmem
      have hlt := ih _ _ _ hmem
      simp only [List.length_cons]
      omega
    cases skip with
    | succ skip => exact hlater skip h
    | zero =>
      simp only [occurrencesFrom] at h
      split at h
      · rcases List.mem_cons.mp h with rfl | h
        · simp
        · exact hlater _ h
      · exact hlater _ h

theorem start_lt_of_mem_occurrences {read : Recogniser α} {token : Occurrence α} {text : List Char}
    (h : token ∈ occurrences read text) : token.start < text.length := by
  have hlt := start_lt_of_mem_occurrencesFrom text 0 0 none h
  omega

end Stops

/-! ### Entries of a vocabulary -/

/-- Reads the spelling of one entry at the front of a text, up to a boundary. -/
def readEntry? {α : Type} (same : Char → Char → Bool) (entry : String × α) (text : List Char) :
    Option (α × Nat) :=
  match dropSpelling same entry.1.toList text with
  | some rest =>
    if isBoundary entry.1.toList.getLast? rest.head? then some (entry.2, entry.1.toList.length)
    else none
  | none => none

theorem Vocabulary.find?_eq {α : Type} (same : Char → Char → Bool) (vocabulary : Vocabulary α)
    (text : List Char) :
    vocabulary.find? same text = vocabulary.findSome? fun entry => readEntry? same entry text :=
  rfl

theorem isWordPlace_none : isWordPlace none = false := rfl

theorem isBoundary_left {place : Option Char} (h : isWordPlace place = false) :
    isBoundary place = isBoundary none := by
  funext after
  rw [isBoundary, h, isBoundary, isWordPlace_none]

theorem isBoundary_right (before : Option Char) {place : Option Char}
    (h : isWordPlace place = false) : isBoundary before place = isBoundary before none := by
  rw [isBoundary, h, isBoundary, isWordPlace_none]

section Entries

variable {α : Type} {same : Char → Char → Bool} {entry : String × α} {stop : Char}

/-- What is read is a spelling at the front of the text, and a boundary is behind it. -/
theorem readEntry?_eq_some_iff {text : List Char} {token : α × Nat} :
    readEntry? same entry text = some token ↔
      (∃ rest, dropSpelling same entry.1.toList text = some rest ∧
        isBoundary entry.1.toList.getLast? rest.head? = true) ∧
      token = (entry.2, entry.1.toList.length) := by
  unfold readEntry?
  cases dropSpelling same entry.1.toList text with
  | none => simp
  | some rest =>
    by_cases hboundary : isBoundary entry.1.toList.getLast? rest.head? = true
    · simp only [hboundary, if_true, Option.some.injEq, exists_eq_left', true_and]
      exact eq_comm
    · simp [hboundary]

theorem readEntry?_nil (hne : entry.1.toList ≠ []) : readEntry? same entry [] = none := by
  unfold readEntry?
  cases hspelling : entry.1.toList with
  | nil => exact absurd hspelling hne
  | cons letter spelling => rfl

/-- Behind a character that is no word character and not in the spelling, a text does not count. -/
theorem readEntry?_append (hstop : isWordChar stop = false)
    (hspelling : entry.1.toList.any (same · stop) = false) (front tail : List Char) :
    readEntry? same entry (front ++ stop :: tail) = readEntry? same entry front := by
  unfold readEntry?
  rw [dropSpelling_append hspelling]
  cases dropSpelling same entry.1.toList front with
  | none => rfl
  | some rest =>
    cases rest with
    | nil =>
      -- the spelling is the whole text, and it ends before `stop` as it does at the end
      have hplace : isWordPlace (some stop) = false := by simpa [isWordPlace] using hstop
      rw [Option.map_some, List.nil_append]
      dsimp only
      rw [List.head?_cons, isBoundary_right _ hplace, List.head?_nil]
    | cons c rest => rfl

end Entries

/-! ### Case -/

/-- The case of ASCII letters does not count. -/
def Recogniser.IgnoresCase {α : Type} (read : Recogniser α) : Prop :=
  ∀ before text, read (before.map Char.toLower) (text.map Char.toLower) = read before text

theorem occurrencesFrom_map_toLower {α : Type} {read : Recogniser α} (h : read.IgnoresCase)
    (text : List Char) : ∀ start skip before,
      occurrencesFrom read start skip (before.map Char.toLower) (text.map Char.toLower) =
        occurrencesFrom read start skip before text := by
  induction text with
  | nil => exact fun _ _ _ => rfl
  | cons c text ih =>
    intro start skip before
    have hread := h before (c :: text)
    have hrest := fun start skip => ih start skip (some c)
    simp only [List.map_cons, Option.map_some] at hread hrest
    simp only [List.map_cons, occurrencesFrom, hread, hrest]

/-- **The lower case of a text has the same tokens.** -/
theorem occurrences_map_toLower {α : Type} {read : Recogniser α} (h : read.IgnoresCase)
    (text : List Char) : occurrences read (text.map Char.toLower) = occurrences read text :=
  occurrencesFrom_map_toLower h text 0 0 none

theorem isWordChar_toLower (c : Char) : isWordChar c.toLower = isWordChar c :=
  apply_toLower (by decide) c

theorem isWordPlace_map_toLower (place : Option Char) :
    isWordPlace (place.map Char.toLower) = isWordPlace place := by
  cases place <;> simp [isWordPlace, isWordChar_toLower]

theorem isBoundary_map_toLower_left (before after : Option Char) :
    isBoundary (before.map Char.toLower) after = isBoundary before after := by
  rw [isBoundary, isWordPlace_map_toLower, isBoundary]

theorem isBoundary_map_toLower_right (before after : Option Char) :
    isBoundary before (after.map Char.toLower) = isBoundary before after := by
  rw [isBoundary, isWordPlace_map_toLower, isBoundary]

theorem sameLetter_toLower (letter c : Char) : sameLetter letter c.toLower = sameLetter letter c := by
  have hidempotent : c.toLower.toLower = c.toLower :=
    apply_toLower (f := Char.toLower) (by decide) c
  have hkelvin : (c.toLower == '\u212A') = (c == '\u212A') := toLower_beq _ c (by decide)
  have hlong : (c.toLower == '\u017F') = (c == '\u017F') := toLower_beq _ c (by decide)
  unfold sameLetter
  rw [hidempotent, hkelvin, hlong]

theorem dropSpelling_map_toLower (spelling text : List Char) :
    dropSpelling sameLetter spelling (text.map Char.toLower) =
      (dropSpelling sameLetter spelling text).map (·.map Char.toLower) := by
  induction spelling generalizing text with
  | nil => rfl
  | cons letter spelling ih =>
    cases text with
    | nil => rfl
    | cons c text =>
      simp only [List.map_cons, dropSpelling, sameLetter_toLower]
      split
      · exact ih text
      · rfl

theorem readEntry?_map_toLower {α : Type} (entry : String × α) (text : List Char) :
    readEntry? sameLetter entry (text.map Char.toLower) = readEntry? sameLetter entry text := by
  unfold readEntry?
  rw [dropSpelling_map_toLower]
  cases dropSpelling sameLetter entry.1.toList text with
  | none => rfl
  | some rest =>
    rw [Option.map_some]
    dsimp only
    rw [List.head?_map, isBoundary_map_toLower_right]

theorem Vocabulary.find?_map_toLower {α : Type} (vocabulary : Vocabulary α) (text : List Char) :
    vocabulary.find? sameLetter (text.map Char.toLower) = vocabulary.find? sameLetter text := by
  simp only [Vocabulary.find?_eq, readEntry?_map_toLower]

theorem Vocabulary.recogniser_ignoresCase {α : Type} (vocabulary : Vocabulary α) :
    vocabulary.recogniser.IgnoresCase := by
  intro before text
  unfold Vocabulary.recogniser
  rw [List.head?_map, isBoundary_map_toLower_left, isBoundary_map_toLower_right,
    Vocabulary.find?_map_toLower]

/-! ### Vocabularies -/

/-- The recogniser of a vocabulary under a way to compare characters. -/
def Vocabulary.reads {α : Type} (vocabulary : Vocabulary α) (same : Char → Char → Bool) :
    Recogniser α := fun before text =>
  if isBoundary before text.head? then vocabulary.find? same text else none

section Vocabularies

variable {α : Type} {vocabulary : Vocabulary α} {same : Char → Char → Bool} {stop : Char}

theorem length_dropSpelling {spelling text rest : List Char}
    (h : dropSpelling same spelling text = some rest) :
    spelling.length + rest.length = text.length := by
  induction spelling generalizing text with
  | nil =>
    rw [dropSpelling, Option.some.injEq] at h
    simp [h]
  | cons letter spelling ih =>
    cases text with
    | nil => exact absurd h nofun
    | cons c text =>
      simp only [dropSpelling] at h
      split at h
      · have hrest := ih h
        simp only [List.length_cons]
        omega
      · exact absurd h nofun

theorem Vocabulary.find?_append (hstop : isWordChar stop = false)
    (hspelling : ∀ entry ∈ vocabulary, entry.1.toList.any (same · stop) = false)
    (front tail : List Char) :
    vocabulary.find? same (front ++ stop :: tail) = vocabulary.find? same front := by
  induction vocabulary with
  | nil => rfl
  | cons entry vocabulary ih =>
    obtain ⟨hentry, hrest⟩ := List.forall_mem_cons.mp hspelling
    have ih := ih hrest
    rw [Vocabulary.find?_eq, Vocabulary.find?_eq] at ih ⊢
    rw [List.findSome?_cons, List.findSome?_cons, readEntry?_append hstop hentry, ih]

/-- **No token of a vocabulary reaches over a character that is neither a word character nor in a
spelling.** -/
theorem Vocabulary.stopsAt (hstop : isWordChar stop = false)
    (hspelling : ∀ entry ∈ vocabulary, entry.1.toList.any (same · stop) = false)
    (hne : ∀ entry ∈ vocabulary, entry.1.toList ≠ []) : (vocabulary.reads same).StopsAt stop := by
  have happend := Vocabulary.find?_append hstop hspelling
  have hnil : vocabulary.find? same [] = none :=
    List.findSome?_eq_none_iff.mpr fun entry hentry => readEntry?_nil (hne entry hentry)
  have hplace : isWordPlace (some stop) = false := by simpa [isWordPlace] using hstop
  refine ⟨?_, ?_, ?_, ?_⟩
  · intro before c text value length h
    unfold Vocabulary.reads at h
    split at h
    · obtain ⟨entry, -, hread⟩ := List.exists_of_findSome?_eq_some h
      obtain ⟨⟨rest, hdrop, -⟩, htoken⟩ := readEntry?_eq_some_iff.mp hread
      have hlength := length_dropSpelling hdrop
      obtain ⟨-, rfl⟩ := Prod.mk.inj htoken
      simp only [List.length_cons] at hlength
      omega
    · exact absurd h nofun
  · intro before c front tail
    have hfind := happend (c :: front) tail
    rw [List.cons_append] at hfind
    unfold Vocabulary.reads
    rw [hfind, List.head?_cons, List.head?_cons]
  · intro before tail
    have hfind := happend [] tail
    rw [List.nil_append] at hfind
    unfold Vocabulary.reads
    rw [hfind, hnil, ite_self]
  · intro text
    unfold Vocabulary.reads
    rw [isBoundary_left hplace]

end Vocabularies

end Acquisition.Name
