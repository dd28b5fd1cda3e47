import Acquisition.Name.Part
import Acquisition.Proofs.Name.Token
import Acquisition.Proofs.Text.Case
import Mathlib.Data.List.DropRight

/-!
# Part identifiers in file names

A part identifier is a separator, a part word, separators if any, and a designator.  The search for
one takes the first, and does not look behind a separator that a word stands behind: what is found
in front of it is the same whatever the word goes on with.

## Main definitions

* `IsPartWord`, `IsDesignator`: a word for parts and what numbers them, in any case.

## Main results

* `dropPart?_append`: an identifier at the front of a text is read no further than a word behind it.
* `splitPartFrom_append_of_some`: an identifier before the last separator hides any behind it.
* `exists_withoutPart?_eq`, `withoutPart?_of_some`: what is left of the name of a part, without and
  with an identifier in front of the part.
-/

namespace Acquisition.Name

open Text

/-! ### The characters of part identifiers -/

theorem isPartSeparator_iff {c : Char} :
    isPartSeparator c = true ↔ c = ' ' ∨ c = '_' ∨ c = '.' ∨ c = '-' := by
  simp [isPartSeparator, or_assoc]

/-- Separators are in none of the part words. -/
theorem sameLetter_separator {word : String} (hword : word ∈ partWords) {stop : Char}
    (hstop : isPartSeparator stop = true) : word.toList.any (sameLetter · stop) = false := by
  revert word
  rcases isPartSeparator_iff.mp hstop with rfl | rfl | rfl | rfl <;> decide

/-- A separator is no digit. -/
theorem isDigit_of_separator {c : Char} (h : isPartSeparator c = true) : c.isDigit = false := by
  rcases isPartSeparator_iff.mp h with rfl | rfl | rfl | rfl <;> rfl

/-! ### Part words -/

theorem dropAnyWord?_append {words : List String} {stop : Char}
    (hstop : ∀ word ∈ words, word.toList.any (sameLetter · stop) = false)
    (front tail : List Char) : dropAnyWord? words (front ++ stop :: tail) =
      (dropAnyWord? words front).map (· ++ stop :: tail) := by
  induction words with
  | nil => rfl
  | cons word words ih =>
    have hrest := ih fun w hw => hstop w (List.mem_cons_of_mem _ hw)
    have hword := dropSpelling_append (hstop word List.mem_cons_self) front tail
    unfold dropAnyWord? at hrest ⊢
    rw [List.findSome?_cons, List.findSome?_cons, hword, hrest]
    cases dropSpelling sameLetter word.toList front <;> rfl

/-! ### Designators -/

/-- The text begins with two letters, as a part word does. -/
def BeginsWithLetters : List Char → Prop
  | a :: b :: _ => a.isAlpha = true ∧ b.isAlpha = true
  | _ => False

theorem isAlphanum_of_isAlpha {c : Char} (h : c.isAlpha = true) : c.isAlphanum = true := by
  rw [Char.isAlphanum, h, Bool.true_or]

theorem isAlphanum_of_isDigit {c : Char} (h : c.isDigit = true) : c.isAlphanum = true := by
  rw [Char.isAlphanum, h, Bool.or_true]

theorem isDigit_of_isAlpha {c : Char} (h : c.isAlpha = true) : c.isDigit = false :=
  of_ascii (p := fun c => c.isAlpha = true → c.isDigit = false) (by decide)
    (toNat_lt_of_isAlphanum (isAlphanum_of_isAlpha h)) h

theorem isPartSeparator_of_isAlphanum {c : Char} (h : c.isAlphanum = true) :
    isPartSeparator c = false := by
  rw [← Bool.not_eq_true]
  intro hseparator
  rcases isPartSeparator_iff.mp hseparator with rfl | rfl | rfl | rfl <;> exact absurd h (by decide)

theorem isWordChar_of_isAlphanum {c : Char} (h : c.isAlphanum = true) : isWordChar c = true := by
  have hascii : c.val < 128 := UInt32.lt_iff_toNat_lt.mpr (toNat_lt_of_isAlphanum h)
  rw [isWordChar, if_pos hascii, h, Bool.true_or]

/-- A word is no designator. -/
theorem dropDesignator?_of_letters {text : List Char} (h : BeginsWithLetters text) :
    dropDesignator? text = none := by
  match text, h with
  | a :: b :: rest, ⟨ha, hb⟩ =>
    have hboundary : isBoundary (some a) (some b) = false := by
      simp [isBoundary, isWordPlace, isWordChar_of_isAlphanum, Char.isAlphanum, ha, hb]
    simp [dropDesignator?, isDigit_of_isAlpha ha, hboundary]

/-- What stands behind a separator does not make a designator of what stands before it. -/
theorem dropDesignator?_append {stop : Char} (hstop : isPartSeparator stop = true) {c : Char}
    (front tail : List Char) : dropDesignator? (c :: front ++ stop :: tail) =
      (dropDesignator? (c :: front ++ [stop])).map (· ++ tail) := by
  have hdigit := isDigit_of_separator hstop
  cases front with
  | nil =>
    simp only [List.cons_append, List.nil_append, dropDesignator?, hdigit, Bool.and_false,
      Bool.false_and, Bool.false_eq_true, if_false]
    split <;> rfl
  | cons d front =>
    have hhead : (front ++ stop :: tail).head? = (front ++ [stop]).head? := by
      cases front <;> rfl
    simp only [List.cons_append, dropDesignator?, hhead]
    split
    · simp
    · split <;> simp

/-! ### Part identifiers -/

section Search

variable {stop : Char} {tail : List Char}

theorem dropWhile_letters (h : BeginsWithLetters tail) : tail.dropWhile isPartSeparator = tail := by
  match tail, h with
  | a :: b :: rest, ⟨ha, hb⟩ =>
    have hplain : isPartSeparator a = false :=
      isPartSeparator_of_isAlphanum (by exact isAlphanum_of_isAlpha ha)
    rw [List.dropWhile_cons_of_neg (by simp [hplain])]

theorem dropDesignator?_dropWhile_append (hstop : isPartSeparator stop = true)
    (htail : BeginsWithLetters tail) (front : List Char) :
    dropDesignator? ((front ++ stop :: tail).dropWhile isPartSeparator) =
      (dropDesignator? ((front ++ [stop]).dropWhile isPartSeparator)).map (· ++ tail) := by
  rw [List.dropWhile_append, List.dropWhile_append]
  cases hdrop : front.dropWhile isPartSeparator with
  | nil =>
    -- only separators are left, and the word behind them is no designator
    have hword := dropDesignator?_of_letters htail
    have hleft : (stop :: tail).dropWhile isPartSeparator = tail := by
      rw [List.dropWhile_cons_of_pos hstop, dropWhile_letters htail]
    have hright : [stop].dropWhile isPartSeparator = [] := List.dropWhile_cons_of_pos hstop
    rw [List.isEmpty_nil, if_pos rfl, if_pos rfl, hleft, hright, hword]
    rfl
  | cons c front => exact dropDesignator?_append hstop front tail

/-- Whether an identifier stands at the front of a text does not depend on what stands behind its
last separator, if that begins with a word. -/
theorem dropPart?_append (hstop : isPartSeparator stop = true) (htail : BeginsWithLetters tail)
    {front : List Char} (hfront : ¬ ∀ c ∈ front, isPartSeparator c = true) :
    dropPart? (front ++ stop :: tail) = (dropPart? (front ++ [stop])).map (· ++ tail) := by
  match front with
  | [] => exact absurd (fun c hc => absurd hc List.not_mem_nil) hfront
  | c :: front =>
    simp only [List.cons_append, dropPart?]
    by_cases hc : isPartSeparator c = true
    · rw [if_pos hc, if_pos hc]
      -- the search for a word starts before the separator
      have hne : (front.dropWhile isPartSeparator).isEmpty = false := by
        rw [← Bool.not_eq_true, List.isEmpty_iff, List.dropWhile_eq_nil_iff]
        exact fun hall => hfront (List.forall_mem_cons.mpr ⟨hc, hall⟩)
      have hwords := dropAnyWord?_append fun word hword => sameLetter_separator hword hstop
      rw [List.dropWhile_append, List.dropWhile_append, hne, if_neg (by simp), if_neg (by simp),
        hwords, hwords]
      cases dropAnyWord? partWords (front.dropWhile isPartSeparator) with
      | none => rfl
      | some before => exact dropDesignator?_dropWhile_append hstop htail before
    · rw [if_neg hc, if_neg hc, Option.map_none]

/-- Separators alone are no identifier. -/
theorem dropPart?_of_separators {text : List Char} (h : ∀ c ∈ text, isPartSeparator c = true) :
    dropPart? text = none := by
  cases text with
  | nil => rfl
  | cons c text =>
    obtain ⟨hc, htext⟩ := List.forall_mem_cons.mp h
    have hdrop : text.dropWhile isPartSeparator = [] := List.dropWhile_eq_nil_iff.mpr htext
    rw [dropPart?, if_pos hc, hdrop]
    rfl

theorem splitPartFrom_of_dropPart? {passed text rest : List Char} (h : dropPart? text = some rest) :
    splitPartFrom passed text = some (passed.reverse, rest) := by
  cases text with
  | nil => exact absurd h nofun
  | cons c text => rw [splitPartFrom, h]

theorem splitPartFrom_cons {passed text : List Char} {c : Char} (h : dropPart? (c :: text) = none) :
    splitPartFrom passed (c :: text) = splitPartFrom (c :: passed) text := by
  rw [splitPartFrom, h]

theorem splitPartFrom_of_separators {passed text : List Char}
    (h : ∀ c ∈ text, isPartSeparator c = true) : splitPartFrom passed text = none := by
  induction text generalizing passed with
  | nil => rfl
  | cons c text ih =>
    rw [splitPartFrom_cons (dropPart?_of_separators h), ih (List.forall_mem_cons.mp h).2]

/-- What was passed already stands before the identifier. -/
theorem prefix_of_splitPartFrom {passed text before after : List Char}
    (h : splitPartFrom passed text = some (before, after)) : passed.reverse <+: before := by
  induction text generalizing passed with
  | nil => exact absurd h nofun
  | cons c text ih =>
    cases hdrop : dropPart? (c :: text) with
    | some rest =>
      rw [splitPartFrom_of_dropPart? hdrop] at h
      obtain ⟨rfl, -⟩ := Prod.mk.inj (Option.some.inj h)
      exact List.prefix_rfl
    | none =>
      rw [splitPartFrom_cons hdrop] at h
      have hlonger := ih h
      rw [List.reverse_cons] at hlonger
      exact (List.prefix_append _ _).trans hlonger

/-- An identifier in front of the last separator is found whatever stands behind that. -/
theorem splitPartFrom_append_of_some (hstop : isPartSeparator stop = true)
    (htail : BeginsWithLetters tail) {front before after passed : List Char}
    (h : splitPartFrom passed (front ++ [stop]) = some (before, after)) :
    splitPartFrom passed (front ++ stop :: tail) = some (before, after ++ tail) := by
  induction front generalizing passed with
  | nil =>
    rw [List.nil_append, splitPartFrom_of_separators (by simpa using hstop)] at h
    exact absurd h nofun
  | cons c front ih =>
    by_cases hall : ∀ d ∈ c :: front, isPartSeparator d = true
    · rw [splitPartFrom_of_separators (List.forall_mem_append.mpr ⟨hall, by simpa using hstop⟩)] at h
      exact absurd h nofun
    · have hfront := dropPart?_append hstop htail hall
      cases hdrop : dropPart? (c :: front ++ [stop]) with
      | some rest =>
        rw [hdrop] at hfront
        rw [splitPartFrom_of_dropPart? hdrop] at h
        obtain ⟨rfl, rfl⟩ := Prod.mk.inj (Option.some.inj h)
        exact splitPartFrom_of_dropPart? hfront
      | none =>
        rw [hdrop] at hfront
        rw [List.cons_append] at hdrop hfront h ⊢
        rw [splitPartFrom_cons hdrop] at h
        rw [splitPartFrom_cons hfront]
        exact ih h

end Search

/-! ### Names of parts -/

/-- A part word in any case. -/
def IsPartWord (token : List Char) : Prop :=
  ∃ word ∈ partWords, token.map Char.toLower = word.toList

/-- What numbers a part: one or two digits, or a letter from `a` to `d` in any case. -/
inductive IsDesignator : List Char → Prop
  | digit {a : Char} (ha : a.isDigit = true) : IsDesignator [a]
  | digits {a b : Char} (ha : a.isDigit = true) (hb : b.isDigit = true) : IsDesignator [a, b]
  | letter {a : Char} (ha : isPartLetter a = true) : IsDesignator [a]

theorem isAlphanum_of_isPartLetter {c : Char} (h : isPartLetter c = true) :
    c.isAlphanum = true := by
  have hsmall : c.toNat < 128 := by
    refine Nat.lt_of_not_le fun hlarge => ?_
    rw [isPartLetter, toLower_of_not_ascii hlarge, Bool.and_eq_true,
      decide_eq_true_eq, decide_eq_true_eq] at h
    have hle : c.toNat ≤ 100 := UInt32.le_iff_toNat_le.mp h.2
    omega
  exact of_ascii (p := fun c => isPartLetter c = true → c.isAlphanum = true) (by decide) hsmall h

theorem IsDesignator.isAlphanum {designator : List Char} (h : IsDesignator designator) :
    ∀ c ∈ designator, c.isAlphanum = true := by
  cases h with
  | digit ha => simpa using isAlphanum_of_isDigit ha
  | digits ha hb => simpa using ⟨isAlphanum_of_isDigit ha, isAlphanum_of_isDigit hb⟩
  | letter ha => simpa using isAlphanum_of_isPartLetter ha

theorem IsDesignator.dropDesignator? {designator : List Char} (h : IsDesignator designator) :
    dropDesignator? (designator.dropWhile isPartSeparator) = some [] := by
  have hplain : ∀ {c : Char} {rest : List Char}, c.isAlphanum = true →
      (c :: rest).dropWhile isPartSeparator = c :: rest := by
    intro c rest hc
    exact List.dropWhile_cons_of_neg (by simp [isPartSeparator_of_isAlphanum hc])
  cases h with
  | digit ha =>
    rw [hplain (isAlphanum_of_isDigit ha)]
    simp [Name.dropDesignator?, ha]
  | digits ha hb =>
    have hend := isWordChar_of_isAlphanum (isAlphanum_of_isDigit hb)
    rw [hplain (isAlphanum_of_isDigit ha)]
    simp [Name.dropDesignator?, ha, hb, isBoundary, isWordPlace, hend]
  | letter ha =>
    rw [hplain (isAlphanum_of_isPartLetter ha)]
    simp [Name.dropDesignator?, ha]

theorem IsPartWord.isLower {token : List Char} (h : IsPartWord token) :
    ∀ c ∈ token, c.toLower.isLower = true := by
  obtain ⟨word, hword, htoken⟩ := h
  have hall : ∀ word ∈ partWords, word.toList.all Char.isLower = true := by decide
  intro c hc
  exact List.all_eq_true.mp (hall word hword) c.toLower (htoken ▸ List.mem_map_of_mem hc)

theorem IsPartWord.isAlphanum {token : List Char} (h : IsPartWord token) :
    ∀ c ∈ token, c.isAlphanum = true :=
  fun c hc => isAlphanum_of_isAlpha (isAlpha_of_isLower_toLower (h.isLower c hc))

theorem IsPartWord.ne_nil {token : List Char} (h : IsPartWord token) : token ≠ [] := by
  obtain ⟨word, hword, htoken⟩ := h
  have hall : ∀ word ∈ partWords, word.toList ≠ [] := by decide
  rintro rfl
  exact hall word hword htoken.symm

/-- None of the part words is the beginning of another one. -/
theorem eq_of_prefix_of_mem_partWords : ∀ a ∈ partWords, ∀ b ∈ partWords,
    a.toList <+: b.toList → a = b := by
  decide

theorem IsPartWord.dropAnyWord? {token : List Char} (h : IsPartWord token) (rest : List Char) :
    dropAnyWord? partWords (token ++ rest) = some rest := by
  have hlower := h.isLower
  obtain ⟨word, hword, htoken⟩ := h
  have hself : dropSpelling sameLetter word.toList (token ++ rest) = some rest := by
    rw [← htoken]
    exact dropSpelling_toLower hlower rest
  cases hfind : Name.dropAnyWord? partWords (token ++ rest) with
  | none =>
    rw [List.findSome?_eq_none_iff.mp hfind word hword] at hself
    exact absurd hself nofun
  | some read =>
    -- what is found is spelled by a part word, and only one of them is at the front
    obtain ⟨other, hother, hread⟩ := List.exists_of_findSome?_eq_some hfind
    have heq : other = word := by
      rcases prefix_or_prefix_of_dropSpelling hlower hread with hprefix | hprefix
      · exact eq_of_prefix_of_mem_partWords other hother word hword (htoken ▸ hprefix)
      · exact (eq_of_prefix_of_mem_partWords word hword other hother (htoken ▸ hprefix)).symm
    rw [← hread, heq, hself]

theorem IsPartWord.beginsWithLetters {token : List Char} (h : IsPartWord token)
    (rest : List Char) : BeginsWithLetters (token ++ rest) := by
  have hlower := h.isLower
  obtain ⟨word, hword, htoken⟩ := h
  have hlong : ∀ word ∈ partWords, 2 ≤ word.toList.length := by decide
  match token, hlower, htoken ▸ hlong word hword with
  | a :: b :: token, hlower, _ =>
    exact ⟨isAlpha_of_isLower_toLower (hlower a (by simp)),
      isAlpha_of_isLower_toLower (hlower b (by simp))⟩

/-- Separators, a part word and a designator are an identifier to the end of a text. -/
theorem dropPart?_part {separator token designator : List Char} (hne : separator ≠ [])
    (hseparator : ∀ c ∈ separator, isPartSeparator c = true) (htoken : IsPartWord token)
    (hdesignator : IsDesignator designator) :
    dropPart? (separator ++ (token ++ designator)) = some [] := by
  cases separator with
  | nil => exact absurd rfl hne
  | cons c separator =>
    obtain ⟨hc, hseparator⟩ := List.forall_mem_cons.mp hseparator
    have hdrop : (separator ++ (token ++ designator)).dropWhile isPartSeparator =
        token ++ designator := by
      rw [List.dropWhile_append_of_pos hseparator,
        dropWhile_letters (htoken.beginsWithLetters designator)]
    rw [List.cons_append, dropPart?, if_pos hc, hdrop, htoken.dropAnyWord?]
    exact hdesignator.dropDesignator?

/-- Where no identifier is found before a part, the part is found, and all parts are found at the
same place. -/
theorem exists_splitPartFrom_part {stop : Char} (hstop : isPartSeparator stop = true)
    {front passed : List Char} (hnone : splitPartFrom passed (front ++ [stop]) = none) :
    ∃ before, ∀ token designator, IsPartWord token → IsDesignator designator →
      splitPartFrom passed (front ++ stop :: (token ++ designator)) = some (before, []) := by
  have hpart : ∀ {front passed : List Char}, (∀ c ∈ front, isPartSeparator c = true) →
      ∀ token designator, IsPartWord token → IsDesignator designator →
        splitPartFrom passed (front ++ stop :: (token ++ designator)) =
          some (passed.reverse, []) := by
    intro front passed hall token designator htoken hdesignator
    have hne : front ++ [stop] ≠ [] := by simp
    have hdrop := dropPart?_part hne (List.forall_mem_append.mpr ⟨hall, by simpa using hstop⟩)
      htoken hdesignator
    rw [List.append_assoc] at hdrop
    exact splitPartFrom_of_dropPart? hdrop
  induction front generalizing passed with
  | nil => exact ⟨passed.reverse, hpart (List.forall_mem_nil _)⟩
  | cons c front ih =>
    by_cases hall : ∀ d ∈ c :: front, isPartSeparator d = true
    · exact ⟨passed.reverse, hpart hall⟩
    · cases hdrop : dropPart? (c :: front ++ [stop]) with
      | some rest =>
        rw [splitPartFrom_of_dropPart? hdrop] at hnone
        exact absurd hnone nofun
      | none =>
        rw [List.cons_append] at hdrop hnone
        rw [splitPartFrom_cons hdrop] at hnone
        obtain ⟨before, hbefore⟩ := ih hnone
        refine ⟨before, fun token designator htoken hdesignator => ?_⟩
        have hfront := dropPart?_append hstop (htoken.beginsWithLetters designator) hall
        rw [List.cons_append, List.cons_append, hdrop] at hfront
        rw [List.cons_append, splitPartFrom_cons hfront]
        exact hbefore token designator htoken hdesignator

/-! ### Stems of parts -/

section Stems

variable {base separator : List Char}

/-- A base that begins with no separator stands in front of every identifier. -/
theorem withoutPart?_of_splitPartFrom {stem : String} {before after : List Char}
    (hbase : ∃ c ∈ stem.toList.head?, isPartSeparator c = false)
    (h : splitPartFrom [] stem.toList = some (before, after)) :
    withoutPart? stem = some (lowercase (String.ofList (before ++ after))) := by
  have hne : before ≠ [] := by
    obtain ⟨c, hc, hplain⟩ := hbase
    cases hstem : stem.toList with
    | nil => simp [hstem] at hc
    | cons d rest =>
      obtain rfl : d = c := by simpa [hstem] using hc
      have hnone : dropPart? (d :: rest) = none := by simp [dropPart?, hplain]
      rw [hstem, splitPartFrom_cons hnone] at h
      rintro rfl
      exact absurd (prefix_of_splitPartFrom h) (by simp)
  rw [withoutPart?, h]
  cases before with
  | nil => exact absurd rfl hne
  | cons c before => rfl

theorem exists_head?_append (hbase : ∃ c ∈ base.head?, isPartSeparator c = false)
    (rest : List Char) :
    ∃ c ∈ (String.ofList (base ++ separator ++ rest)).toList.head?, isPartSeparator c = false := by
  obtain ⟨c, hc, hplain⟩ := hbase
  refine ⟨c, ?_, hplain⟩
  cases base with
  | nil => simp at hc
  | cons d base => simpa using hc

variable (hbase : ∃ c ∈ base.head?, isPartSeparator c = false) (hne : separator ≠ [])
  (hseparator : ∀ c ∈ separator, isPartSeparator c = true)
include hbase hne hseparator

/-- **All parts of a base without an identifier have one name without their part.** -/
theorem exists_withoutPart?_eq (hnone : splitPartFrom [] (base ++ separator) = none) :
    ∃ name, ∀ token designator, IsPartWord token → IsDesignator designator →
      withoutPart? (String.ofList (base ++ separator ++ (token ++ designator))) = some name := by
  obtain ⟨front, stop, rfl⟩ := (List.eq_nil_or_concat' separator).resolve_left hne
  have hstop : isPartSeparator stop = true := hseparator stop (by simp)
  rw [← List.append_assoc] at hnone
  obtain ⟨before, hbefore⟩ := exists_splitPartFrom_part hstop hnone
  refine ⟨lowercase (String.ofList (before ++ [])), fun token designator htoken hdesignator => ?_⟩
  refine withoutPart?_of_splitPartFrom (exists_head?_append hbase _) ?_
  rw [String.toList_ofList, ← hbefore token designator htoken hdesignator]
  simp

/-- A base with an identifier loses that instead of the part. -/
theorem withoutPart?_of_some {before after token : List Char} (designator : List Char)
    (htoken : IsPartWord token) (h : splitPartFrom [] (base ++ separator) = some (before, after)) :
    withoutPart? (String.ofList (base ++ separator ++ (token ++ designator))) =
      some (lowercase (String.ofList (before ++ after ++ (token ++ designator)))) := by
  obtain ⟨front, stop, rfl⟩ := (List.eq_nil_or_concat' separator).resolve_left hne
  have hstop : isPartSeparator stop = true := hseparator stop (by simp)
  rw [← List.append_assoc] at h
  have hsplit := splitPartFrom_append_of_some hstop (htoken.beginsWithLetters designator) h
  rw [List.append_assoc before]
  refine withoutPart?_of_splitPartFrom (exists_head?_append hbase _) ?_
  rw [String.toList_ofList, ← hsplit]
  simp

end Stems

end Acquisition.Name
