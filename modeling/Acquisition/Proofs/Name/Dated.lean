import Acquisition.Proofs.Name.FileName

/-!
# The year of a release and the title in front of it

A release name holds the title of the work, the year, and what else there is to say.  The year is
told by the last token that looks like one, and the title is what stands before the first.  These are
one token unless the title has a number in it that looks like a year.

## Main definitions

* `Unpadded`: a text has no outer blanks.
* `YearFree`: a text has no token that looks like a year.
* `datedTitle`: a title, a year and the rest of a release name.

## Main results

* `unpadded_normalize`: the normal form begins and ends with a word.
* `exists_normalize_dated`: behind the title of a release comes one year.
* `reads_dated_iff`: the year is told right, and the title just when it has no such number in it.
-/

namespace Acquisition.Name

open Text

/-! ### Outer blanks -/

/-- A text that begins and ends with other characters than blanks. -/
structure Unpadded (text : List Char) : Prop where
  ne_nil : text ≠ []
  front : text.head?.any isBlank = false
  back : text.getLast?.any isBlank = false

/-- What is between two such texts does not count. -/
theorem Unpadded.append {front tail : List Char} (hfront : Unpadded front) (htail : Unpadded tail)
    (between : List Char) : Unpadded (front ++ between ++ tail) := by
  obtain ⟨first, more, rfl⟩ := List.exists_cons_of_ne_nil hfront.ne_nil
  refine ⟨by simp, hfront.front, ?_⟩
  rw [List.getLast?_append, List.getLast?_eq_some_getLast htail.ne_nil, Option.some_or,
    ← List.getLast?_eq_some_getLast]
  exact htail.back

theorem unpadded_of_plain {word : List Char} (hne : word ≠ []) (h : ∀ c ∈ word, isBlank c = false) :
    Unpadded word := by
  refine ⟨hne, ?_, ?_⟩
  · rw [Option.any_eq_false_iff_get]
    exact fun hsome => by simpa using h _ (List.mem_of_mem_head? (Option.get_mem hsome))
  · rw [Option.any_eq_false_iff_get]
    exact fun hsome => by simpa using h _ (List.mem_of_mem_getLast? (Option.get_mem hsome))

theorem trimLeft_of_front {text : List Char} (h : text.head?.any isBlank = false) :
    trimLeft text = text := by
  cases text with
  | nil => rfl
  | cons c text => exact List.dropWhile_cons_of_neg (by simpa using h)

/-- A blank behind a text is trimmed, and no more. -/
theorem Unpadded.trimChars_concat {text : List Char} (h : Unpadded text) {c : Char}
    (hc : isBlank c = true) : trimChars (text ++ [c]) = text := by
  have hfront : (text ++ [c]).head?.any isBlank = false := by
    rw [List.head?_append, List.head?_eq_some_head h.ne_nil, Option.some_or,
      ← List.head?_eq_some_head]
    exact h.front
  have hback : text.reverse.head?.any isBlank = false := by
    rw [List.head?_reverse]
    exact h.back
  have hdrop : trimLeft (c :: text.reverse) = trimLeft text.reverse := List.dropWhile_cons_of_pos hc
  rw [trimChars, trimLeft_of_front hfront, trimRight, List.reverse_concat, hdrop,
    trimLeft_of_front hback, List.reverse_reverse]

theorem unpadded_intercalate {words : List (List Char)} (hne : words ≠ [])
    (h : ∀ word ∈ words, Unpadded word) (separator : List Char) :
    Unpadded (separator.intercalate words) := by
  induction words with
  | nil => exact absurd rfl hne
  | cons first words ih =>
    obtain ⟨hfirst, hwords⟩ := List.forall_mem_cons.mp h
    cases words with
    | nil => simpa using hfirst
    | cons second words =>
      rw [List.intercalate_cons_cons]
      exact hfirst.append (ih (List.cons_ne_nil _ _) hwords) separator

/-- **The normal form begins and ends with a word**, where there is one. -/
theorem unpadded_normalize {text : List Char} (h : normalize text ≠ []) :
    Unpadded (normalize text) := by
  rw [ne_eq, normalize_eq_nil_iff] at h
  rw [normalize_eq]
  refine unpadded_intercalate h (fun word hmem => ?_) [' ']
  obtain ⟨hne, hplain⟩ := plain_of_mem_words hmem
  exact unpadded_of_plain hne hplain

/-! ### Years -/

/-- A text has no token that looks like a year. -/
def YearFree (text : List Char) : Prop :=
  occurrences year (normalize text) = []

theorem year_stopsAt_blank : Recogniser.StopsAt year ' ' :=
  year_stopsAt (by decide) (by decide)

/-- What stands before a dot has no year that the whole text does not have. -/
theorem YearFree.before_dot {front tail : List Char} (h : YearFree (front ++ '.' :: tail)) :
    YearFree front := by
  unfold YearFree at h ⊢
  by_cases hfront : normalize front = []
  · rw [hfront]
    rfl
  · by_cases htail : normalize tail = []
    · rwa [normalize_dot_of_blank htail] at h
    · rw [normalize_dot hfront htail, occurrences_append year_stopsAt_blank,
        List.append_eq_nil_iff] at h
      exact h.1

/-- A media extension is cut off behind a dot, so that what is left of a text behind its first part
has no year if the text has none. -/
theorem splitExtension_yearFree (front : List Char) {tail : List Char} (h : YearFree tail) :
    (splitExtension (front ++ '.' :: tail)).1 = front ∨
      ∃ rest, YearFree rest ∧ (splitExtension (front ++ '.' :: tail)).1 = front ++ '.' :: rest := by
  rcases not_mem_or_exists_last '.' tail with hdot | ⟨rest, extension, hdot, rfl⟩
  · unfold splitExtension
    rw [splitLast?_append hdot]
    dsimp only
    cases extensionQuality? tail with
    | none => exact Or.inr ⟨tail, h, rfl⟩
    | some quality => exact Or.inl rfl
  · have htext : front ++ '.' :: (rest ++ '.' :: extension) =
        (front ++ '.' :: rest) ++ '.' :: extension := by simp
    unfold splitExtension
    rw [htext, splitLast?_append hdot]
    dsimp only
    cases extensionQuality? extension with
    | none => exact Or.inr ⟨rest ++ '.' :: extension, h, htext.symm⟩
    | some quality => exact Or.inr ⟨rest, h.before_dot, rfl⟩

/-- A year in digits. -/
def yearText (year : Nat) : List Char :=
  (toString year).toList

/-- A year from 1900 to 2099. -/
def IsYear (year : Nat) : Prop :=
  1900 ≤ year ∧ year ≤ 2099

section Years

variable {year : Nat} {name tail : List Char}

/-- The digits of a year are in normal form and read as that year. -/
theorem IsYear.reads (h : IsYear year) : normalize (yearText year) = yearText year ∧
    occurrences Name.year (yearText year) = [⟨0, some year⟩] := by
  have hall : ∀ k < 200, normalize (yearText (1900 + k)) = yearText (1900 + k) ∧
      occurrences Name.year (yearText (1900 + k)) = [⟨0, some (1900 + k)⟩] := by
    unfold yearText
    decide +kernel
  obtain ⟨hfirst, hlast⟩ := h
  have hk := hall (year - 1900) (by omega)
  rwa [Nat.add_sub_cancel' hfirst] at hk

theorem IsYear.yearText_ne_nil (h : IsYear year) : yearText year ≠ [] := by
  intro hnil
  have hreads := h.reads.2
  rw [hnil] at hreads
  exact absurd hreads nofun

/-- Behind the digits of a year comes no other year. -/
theorem IsYear.occurrences_append (h : IsYear year) (htail : YearFree tail) :
    occurrences Name.year (normalize (yearText year ++ '.' :: tail)) = [⟨0, some year⟩] := by
  obtain ⟨hnormal, hreads⟩ := h.reads
  by_cases hblank : normalize tail = []
  · rw [normalize_dot_of_blank hblank, hnormal, hreads]
  · have hne : normalize (yearText year) ≠ [] := hnormal.symm ▸ h.yearText_ne_nil
    rw [normalize_dot hne hblank, hnormal, Name.occurrences_append year_stopsAt_blank, hreads, htail]
    rfl

/-- What is read of a dated title is its name, a space, and a text with just the year in it. -/
theorem exists_normalize_dated (hname : normalize name = name) (hne : name ≠ []) (hyear : IsYear year)
    (htail : YearFree tail) :
    ∃ more, normalize (splitExtension (name ++ '.' :: yearText year ++ '.' :: tail)).1 =
        name ++ ' ' :: more ∧
      occurrences Name.year more = [⟨0, some year⟩] := by
  have hnormalName : normalize name ≠ [] := hname.symm ▸ hne
  have hdot : ∀ {more}, occurrences Name.year (normalize more) = [⟨0, some year⟩] →
      normalize (name ++ '.' :: more) = name ++ ' ' :: normalize more := by
    intro more hmore
    have hmoreNe : normalize more ≠ [] := by
      intro hnil
      rw [hnil] at hmore
      exact absurd hmore nofun
    rw [normalize_dot hnormalName hmoreNe, hname]
  rcases splitExtension_yearFree (name ++ '.' :: yearText year) htail with hstem | ⟨rest, hrest, hstem⟩
  · have hdigits : occurrences Name.year (normalize (yearText year)) = [⟨0, some year⟩] := by
      rw [hyear.reads.1, hyear.reads.2]
    exact ⟨normalize (yearText year), by rw [hstem, hdot hdigits], hdigits⟩
  · have hdigits := hyear.occurrences_append hrest
    refine ⟨normalize (yearText year ++ '.' :: rest), ?_, hdigits⟩
    rw [hstem, List.append_assoc, List.cons_append, hdot hdigits]

end Years

/-! ### What stands before a year -/

/-- What stands before a token, if anything does. -/
def workBefore? (text : List Char) (token : Occurrence (Option Nat)) : Option String :=
  match trimChars (text.take token.start) with
  | [] => none
  | work => some (String.ofList work)

theorem length_trimChars_le (text : List Char) : (trimChars text).length ≤ text.length := by
  have hleft : ∀ cs : List Char, (trimLeft cs).length ≤ cs.length :=
    fun cs => (List.dropWhile_sublist _).length_le
  calc (trimChars text).length = (trimLeft (trimLeft text).reverse).length := by
        rw [trimChars, trimRight, List.length_reverse]
    _ ≤ (trimLeft text).reverse.length := hleft _
    _ = (trimLeft text).length := List.length_reverse
    _ ≤ text.length := hleft _

/-- What stands before a token of a text is not the whole of it. -/
theorem workBefore?_ne {name : String} {token : Occurrence (Option Nat)}
    (h : token ∈ occurrences year name.toList) : workBefore? name.toList token ≠ some name := by
  have hlt := start_lt_of_mem_occurrences h
  have hlength := length_trimChars_le (name.toList.take token.start)
  rw [List.length_take] at hlength
  unfold workBefore?
  split
  · exact nofun
  · intro hwork
    have hall := congrArg String.toList (Option.some.inj hwork)
    rw [String.toList_ofList] at hall
    rw [hall] at hlength
    omega

/-- What stands before a token does not hang on what comes after it. -/
theorem workBefore?_append {text : List Char} {token : Occurrence (Option Nat)}
    (h : token ∈ occurrences year text) (tail : List Char) :
    workBefore? (text ++ tail) token = workBefore? text token := by
  have hlt := start_lt_of_mem_occurrences h
  unfold workBefore?
  rw [List.take_append_of_le_length (Nat.le_of_lt hlt)]

/-- Before a token behind a space stands the whole text in front of the space. -/
theorem workBefore?_concat {text : List Char} (h : Unpadded text) (value : Option Nat)
    (tail : List Char) :
    workBefore? (text ++ ' ' :: tail) ⟨text.length + 1, value⟩ = some (String.ofList text) := by
  have htake : (text ++ ' ' :: tail).take (text.length + 1) = text ++ [' '] := by
    rw [List.take_length_add_append]
    rfl
  unfold workBefore?
  dsimp only
  rw [htake, h.trimChars_concat (by decide)]
  obtain ⟨c, rest, rfl⟩ := List.exists_cons_of_ne_nil h.ne_nil
  rfl

/-! ### What is read of a dated title -/

theorem mediaTitle_ofTitle (title : String) : (ParsedRelease.ofTitle title).mediaTitle =
    (occurrences year (normalize (splitExtension title.toList).1)).head?.bind
      (workBefore? (normalize (splitExtension title.toList).1)) :=
  rfl

theorem year_ofTitle (title : String) : (ParsedRelease.ofTitle title).year =
    ((occurrences year (normalize (splitExtension title.toList).1)).filterMap (·.value)).getLast? :=
  rfl

/-- The title `name`, the year and the rest of a release name, joined by dots. -/
def datedTitle (name : String) (year : Nat) (tail : String) : String :=
  name ++ "." ++ toString year ++ "." ++ tail

theorem toList_datedTitle (name : String) (year : Nat) (tail : String) :
    (datedTitle name year tail).toList =
      name.toList ++ '.' :: yearText year ++ '.' :: tail.toList := by
  simp [datedTitle, yearText]

/-- **The year is the one behind the name, and the title is the name just when no number in the name
looks like a year.**  Otherwise the title is what stands before the first such number. -/
theorem reads_dated_iff {name tail : String} {year : Nat}
    (hname : normalize name.toList = name.toList) (hne : name ≠ "") (hyear : IsYear year)
    (htail : YearFree tail.toList) :
    (ParsedRelease.ofTitle (datedTitle name year tail)).year = some year ∧
      ((ParsedRelease.ofTitle (datedTitle name year tail)).mediaTitle = some name ↔
        occurrences Name.year name.toList = []) ∧
      ∀ first, (occurrences Name.year name.toList).head? = some first →
        (ParsedRelease.ofTitle (datedTitle name year tail)).mediaTitle =
          workBefore? name.toList first := by
  have hchars : name.toList ≠ [] := fun hnil => hne (String.toList_eq_nil_iff.mp hnil)
  obtain ⟨more, htext, hmore⟩ := exists_normalize_dated hname hchars hyear htail
  have htokens : occurrences Name.year (name.toList ++ ' ' :: more) =
      occurrences Name.year name.toList ++ [⟨name.toList.length + 1, some year⟩] := by
    rw [occurrences_append year_stopsAt_blank, hmore]
    simp [Occurrence.shift]
  rw [mediaTitle_ofTitle, year_ofTitle, toList_datedTitle, htext, htokens]
  refine ⟨by simp, ?_⟩
  cases hown : occurrences Name.year name.toList with
  | nil =>
    have hpadded : Unpadded name.toList := by
      rw [← hname]
      exact unpadded_normalize (hname.symm ▸ hchars)
    have hwork := workBefore?_concat hpadded (some year) more
    rw [String.ofList_toList] at hwork
    exact ⟨iff_of_true hwork rfl, fun first h => absurd h nofun⟩
  | cons first others =>
    have hmem : first ∈ occurrences Name.year name.toList := hown ▸ List.mem_cons_self
    have hwork := workBefore?_append hmem (' ' :: more)
    refine ⟨iff_of_false (fun h => ?_) (List.cons_ne_nil _ _), fun other hother => ?_⟩
    · exact workBefore?_ne hmem (hwork ▸ h)
    · obtain rfl := Option.some.inj hother
      exact hwork

/-- A name without such a number stays the title, in front of a media extension as in front of other
words. -/
theorem movieTitle_reads_dated : normalize "Movie Title".toList = "Movie Title".toList ∧
    "Movie Title" ≠ "" ∧ IsYear 2020 ∧ YearFree "1080p.WEB-DL.x264-GRP.mkv".toList ∧
      (ParsedRelease.ofTitle (datedTitle "Movie Title" 2020 "1080p.WEB-DL.x264-GRP.mkv")).year =
        some 2020 ∧
      (ParsedRelease.ofTitle (datedTitle "Movie Title" 2020 "1080p.WEB-DL.x264-GRP.mkv")).mediaTitle =
        some "Movie Title" := by
  have hname : normalize "Movie Title".toList = "Movie Title".toList := by decide
  have hyear : IsYear 2020 := by unfold IsYear; omega
  have htail : YearFree "1080p.WEB-DL.x264-GRP.mkv".toList := by unfold YearFree; decide +kernel
  obtain ⟨hread, htitle, -⟩ := reads_dated_iff hname (by decide) hyear htail
  exact ⟨hname, by decide, hyear, htail, hread, htitle.mpr (by decide)⟩

/-- A name may end in a number that looks like a year. -/
theorem not_reads_dated : ¬ ∀ (name : String) (year : Nat) (tail : String),
    normalize name.toList = name.toList → name ≠ "" → IsYear year → YearFree tail.toList →
      (ParsedRelease.ofTitle (datedTitle name year tail)).year = some year ∧
        (ParsedRelease.ofTitle (datedTitle name year tail)).mediaTitle = some name := by
  intro hall
  have hrunner := hall "Blade Runner 2049" 2017 "1080p.BluRay.x264-GRP" (by decide) (by decide)
    (by unfold IsYear; omega) (by unfold YearFree; decide +kernel)
  revert hrunner
  decide +kernel

end Acquisition.Name
