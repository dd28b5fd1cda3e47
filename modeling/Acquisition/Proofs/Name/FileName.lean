import Acquisition.Proofs.Name.Release

/-!
# The file of a release

A file is named for its release: the title and a media extension.  The title may end in a media
extension itself, which is then a word of the file name like any other.  No token reaches over the
blank before that word, and the word is no token but possibly one for sound, which does not count
beside the tokens before it.

## Main definitions

* `Announces`: a normalised name has a token that tells the quality.

## Main results

* `occurrences_append_extension`: a media extension that is no token does not count as a word.
* `detectQuality_congr`: beside a token the extension of a file does not count.
* `file_reads_as_title`: the file of a release is read like its title.
-/

namespace Acquisition.Name

open Text

/-! ### Years -/

theorem isDecimalDigit_toLower (c : Char) : isDecimalDigit c.toLower = isDecimalDigit c :=
  apply_toLower (by decide) c

theorem yearOfDigits?_map_toLower (digits : List Char) :
    yearOfDigits? (digits.map Char.toLower) = yearOfDigits? digits := by
  have hisDigit : ∀ c : Char, c.toLower.isDigit = c.isDigit :=
    apply_toLower (f := Char.isDigit) (by decide)
  have hall : (digits.map Char.toLower).all Char.isDigit = digits.all Char.isDigit := by
    rw [List.all_map]
    congr 1
    exact funext hisDigit
  unfold yearOfDigits?
  rw [hall]
  by_cases hdigits : digits.all Char.isDigit = true
  · -- digits have no case
    have hsame : digits.map Char.toLower = digits := by
      refine (List.map_congr_left fun c hc => ?_).trans (List.map_id' digits)
      have hc : c.isDigit = true := List.all_eq_true.mp hdigits c hc
      exact of_ascii (p := fun c => c.isDigit = true → c.toLower = c) (by decide)
        (toNat_lt_of_isAlphanum (by simp [Char.isAlphanum, hc])) hc
    rw [hsame]
  · rw [if_neg hdigits, if_neg hdigits]

theorem year_ignoresCase : Recogniser.IgnoresCase year := by
  have hdigit : ∀ d, (∀ n < 128, ((Char.ofNat n).toLower == d) = (Char.ofNat n == d)) →
      ∀ c : Char, (c.toLower == d) = (c == d) := fun d h c => toLower_beq d c h
  intro before text
  match text with
  | [] => rfl
  | [a] => rfl
  | [a, b] => rfl
  | [a, b, c] => rfl
  | a :: b :: c :: d :: rest =>
    have hvalue := yearOfDigits?_map_toLower [a, b, c, d]
    have hfirst := isBoundary_map_toLower_right before (some a)
    have hlast := isBoundary_map_toLower_left (some d) rest.head?
    simp only [List.map_cons, List.map_nil, Option.map_some] at hvalue hfirst hlast
    simp only [List.map_cons, year, hvalue, isDecimalDigit_toLower, List.head?_map,
      isBoundary_map_toLower_left, isBoundary_map_toLower_right, hfirst, hlast,
      hdigit '1' (by decide), hdigit '2' (by decide), hdigit '9' (by decide),
      hdigit '0' (by decide)]

/-- A year ends before a character that is neither a word character nor a digit. -/
theorem year_stopsAt {stop : Char} (hstop : isWordChar stop = false)
    (hdigit : isDecimalDigit stop = false) : Recogniser.StopsAt year stop := by
  have hplace : isWordPlace (some stop) = false := by simpa [isWordPlace] using hstop
  have hne : ∀ c, isWordChar c = true → (stop == c) = false := by
    intro c hc
    exact beq_of_wordChar hstop hc
  refine ⟨?_, ?_, ?_, ?_⟩
  · intro before c text value length h
    rcases text with _ | ⟨b, _ | ⟨d, _ | ⟨e, rest⟩⟩⟩
    · cases h
    · cases h
    · cases h
    · simp only [year] at h
      split at h
      · obtain ⟨-, rfl⟩ := Prod.mk.inj (Option.some.inj h)
        simp only [List.length_cons]
        omega
      · cases h
  · -- how far the four characters of a year would reach
    intro before c front tail
    rcases front with _ | ⟨b, _ | ⟨d, _ | ⟨e, _ | ⟨f, front⟩⟩⟩⟩
    · rcases tail with _ | ⟨d, _ | ⟨e, tail⟩⟩
      · rfl
      · rfl
      · simp [year, hne '9' (by decide), hne '0' (by decide)]
    · rcases tail with _ | ⟨d, tail⟩
      · rfl
      · simp [year, hdigit]
    · simp [year, hdigit]
    · dsimp only [List.cons_append, List.nil_append, year]
      rw [List.head?_cons, isBoundary_right _ hplace, List.head?_nil]
    · rfl
  · intro before tail
    rcases tail with _ | ⟨b, _ | ⟨d, _ | ⟨e, tail⟩⟩⟩
    · rfl
    · rfl
    · rfl
    · simp [year, hne '1' (by decide), hne '2' (by decide)]
  · intro text
    rcases text with _ | ⟨a, _ | ⟨b, _ | ⟨d, _ | ⟨e, rest⟩⟩⟩⟩
    · rfl
    · rfl
    · rfl
    · rfl
    · simp only [year, isBoundary_left hplace]

/-! ### Tokens and media extensions -/

section Extension

variable {α : Type} {read : Recogniser α} {extension : List Char} {quality : Quality}

/-- Whether a media extension has a token is checked of the known ones. -/
theorem occurrences_extension (hcase : read.IgnoresCase)
    (hknown : ∀ entry ∈ extensionQualities, occurrences read entry.1.toList = [])
    (h : extensionQuality? extension = some quality) : occurrences read extension = [] := by
  rw [← occurrences_map_toLower hcase]
  exact of_extensionQuality? (p := fun text => occurrences read text = []) hknown h

/-- A media extension that is no token does not count behind a blank. -/
theorem occurrences_append_extension (hstop : read.StopsAt ' ') (hcase : read.IgnoresCase)
    (hknown : ∀ entry ∈ extensionQualities, occurrences read entry.1.toList = [])
    (h : extensionQuality? extension = some quality) (text : List Char) :
    occurrences read (text ++ ' ' :: extension) = occurrences read text := by
  rw [occurrences_append hstop, occurrences_extension hcase hknown h, List.map_nil, List.append_nil]

/-- A media extension that is in no vocabulary does not count behind a blank. -/
theorem Vocabulary.occurrences_append_extension {vocabulary : Vocabulary α}
    (hspelling : ∀ entry ∈ vocabulary, entry.1.toList.any (sameLetter · ' ') = false)
    (hne : ∀ entry ∈ vocabulary, entry.1.toList ≠ [])
    (hknown : ∀ entry ∈ extensionQualities, occurrences vocabulary.recogniser entry.1.toList = [])
    (h : extensionQuality? extension = some quality) (text : List Char) :
    occurrences vocabulary.recogniser (text ++ ' ' :: extension) =
      occurrences vocabulary.recogniser text :=
  Name.occurrences_append_extension (Vocabulary.stopsAt (by decide) hspelling hne)
    vocabulary.recogniser_ignoresCase hknown h text

theorem source?_append (h : extensionQuality? extension = some quality) (text : List Char) :
    source? (text ++ ' ' :: extension) = source? text := by
  unfold source? values
  rw [Vocabulary.occurrences_append_extension (by decide) (by decide) (by decide) h]

theorem resolution?_append (h : extensionQuality? extension = some quality) (text : List Char) :
    resolution? (text ++ ' ' :: extension) = resolution? text := by
  unfold resolution? values
  rw [Vocabulary.occurrences_append_extension (by decide) (by decide) (by decide) h]

theorem detectLanguages_append (h : extensionQuality? extension = some quality) (text : List Char) :
    detectLanguages (text ++ ' ' :: extension) = detectLanguages text := by
  unfold detectLanguages values
  rw [Vocabulary.occurrences_append_extension (by decide) (by decide) (by decide) h]

theorem years_append (h : extensionQuality? extension = some quality) (text : List Char) :
    occurrences year (text ++ ' ' :: extension) = occurrences year text :=
  occurrences_append_extension (year_stopsAt (by decide) (by decide)) year_ignoresCase (by decide)
    h text

/-- Some media extensions are tokens for sound, but the first token counts. -/
theorem audioQuality?_append {text : List Char} (htext : (audioQuality? text).isSome = true)
    (word : List Char) : audioQuality? (text ++ ' ' :: word) = audioQuality? text := by
  have hstop : audios.recogniser.StopsAt ' ' :=
    Vocabulary.stopsAt (by decide) (by decide) (by decide)
  unfold audioQuality? at htext ⊢
  rw [values_append hstop]
  cases hvalues : values audios.recogniser text with
  | nil => simp [hvalues] at htext
  | cons audio more => rfl

end Extension

/-! ### Quality -/

/-- A token of the text tells the quality. -/
def Announces (text : List Char) : Prop :=
  (source? text).isSome = true ∨ (resolution? text).isSome = true ∨
    (audioQuality? text).isSome = true

theorem pictureQuality?_isSome (source : Option Source) (resolution : Option Resolution) :
    (pictureQuality? source resolution).isSome = (source.isSome || resolution.isSome) := by
  rcases source with _ | (_ | _ | _ | _ | _ | _) <;> rcases resolution with _ | (_ | _ | _ | _) <;> rfl

theorem not_announces_nil : ¬ Announces [] := by
  unfold Announces
  decide

/-- **Beside a token the extension of a file does not count**, neither as such nor as a word. -/
theorem detectQuality_congr {text other : List Char} (htext : Announces text)
    (hsource : source? other = source? text) (hresolution : resolution? other = resolution? text)
    (haudio : (audioQuality? text).isSome = true → audioQuality? other = audioQuality? text)
    (extension extension' : Option Quality) :
    detectQuality other extension = detectQuality text extension' := by
  unfold detectQuality
  rw [hsource, hresolution]
  cases hpicture : pictureQuality? (source? text) (resolution? text) with
  | some quality => rfl
  | none =>
    -- there is no token for the picture, so there is one for the sound
    have hnone := pictureQuality?_isSome (source? text) (resolution? text)
    rw [hpicture] at hnone
    have hsome : (audioQuality? text).isSome = true := by
      unfold Announces at htext
      simp_all
    obtain ⟨quality, hquality⟩ := Option.isSome_iff_exists.mp hsome
    rw [haudio hsome, hquality]
    rfl

/-! ### Titles and files -/

/-- Two names say the same of the work, apart from the names themselves and the group. -/
structure SaysSame (parsed other : ParsedRelease) : Prop where
  quality : parsed.quality = other.quality
  year : parsed.year = other.year
  mediaTitle : parsed.mediaTitle = other.mediaTitle
  languages : parsed.languages = other.languages

/-- A title announces a quality, whatever media extension it ends in. -/
def AnnouncesQuality (title : String) : Prop :=
  Announces (normalize (splitExtension title.toList).1)

/-- A media extension in any case. -/
def IsMediaExtension (extension : String) : Prop :=
  ∃ entry ∈ extensionQualities, equalIgnoringCase extension entry.1 = true

theorem IsMediaExtension.exists_quality {extension : String} (h : IsMediaExtension extension) :
    ∃ quality, extensionQuality? extension.toList = some quality := by
  obtain ⟨entry, hentry, hequal⟩ := h
  have hknown : (entry.1.toList == extension.toList.map Char.toLower) = true := by
    have hlower : entry.1.toList.map Char.toLower = entry.1.toList :=
      (by decide : ∀ entry ∈ extensionQualities,
        entry.1.toList.map Char.toLower = entry.1.toList) entry hentry
    rw [equalIgnoringCase_iff.mp hequal, hlower, beq_self_eq_true]
  cases hquality : extensionQuality? extension.toList with
  | some quality => exact ⟨quality, rfl⟩
  | none =>
    rw [extensionQuality?, Option.map_eq_none_iff, List.find?_eq_none] at hquality
    exact absurd hknown (hquality entry hentry)

/-- The title of the work stands before the first year. -/
theorem take_start_append {text : List Char} {token : Occurrence (Option Nat)}
    (h : (occurrences year text).head? = some token) (tail : List Char) :
    (text ++ tail).take token.start = text.take token.start := by
  have hlt := start_lt_of_mem_occurrences (List.mem_of_mem_head? h)
  exact List.take_append_of_le_length (Nat.le_of_lt hlt)

/-- A title with one more media extension says the same. -/
theorem saysSame_ofTitle_append {title extension : String} (htitle : AnnouncesQuality title)
    (hextension : IsMediaExtension extension) :
    SaysSame (ParsedRelease.ofTitle (title ++ "." ++ extension)) (ParsedRelease.ofTitle title) := by
  obtain ⟨quality, hquality⟩ := hextension.exists_quality
  have hfile : splitExtension (title ++ "." ++ extension).toList = (title.toList, some quality) := by
    have htext : (title ++ "." ++ extension).toList = title.toList ++ '.' :: extension.toList := by
      simp
    rw [htext, splitExtension_append hquality]
  unfold AnnouncesQuality at htitle
  unfold ParsedRelease.ofTitle
  rw [hfile]
  rcases splitExtension_cases title.toList with hsplit | ⟨stem, own, ownQuality, hown, hstem, hsplit⟩
  · rw [hsplit] at htitle ⊢
    refine ⟨?_, rfl, rfl, rfl⟩
    dsimp only
    rw [detectQuality_congr htitle rfl rfl fun _ => rfl]
  · -- the extension of the title is the last word of the file name
    rw [hsplit] at htitle ⊢
    have hne : normalize stem ≠ [] := fun hnil => not_announces_nil (hnil ▸ htitle)
    have hnormal : normalize title.toList = normalize stem ++ ' ' :: own := by
      rw [hstem, normalize_append hne (isAlphanum_of_extensionQuality? hown)
        (ne_nil_of_extensionQuality? hown)]
    have hrevision : detectRevision title.toList = detectRevision stem := by
      rw [hstem, detectRevision_append hown]
    dsimp only
    rw [hnormal, hrevision]
    have hyears := years_append hown (normalize stem)
    refine ⟨?_, ?_, ?_, ?_⟩
    · dsimp only
      rw [detectQuality_congr htitle (source?_append hown _) (resolution?_append hown _)
        fun haudio => audioQuality?_append haudio own]
    · dsimp only
      rw [hyears]
    · dsimp only
      rw [hyears]
      cases hfirst : (occurrences year (normalize stem)).head? with
      | none => rfl
      | some first =>
        rw [Option.bind_some, Option.bind_some, take_start_append hfirst]
    · exact detectLanguages_append hown (normalize stem)

/-- A file with a media extension has a letter or digit in its name. -/
theorem exists_isAlphanum_mem (title : String) {extension : String}
    (hextension : IsMediaExtension extension) :
    ∃ c ∈ (title ++ "." ++ extension).toList, c.isAlphanum = true := by
  obtain ⟨quality, hquality⟩ := hextension.exists_quality
  obtain ⟨c, hc⟩ := List.exists_mem_of_ne_nil _ (ne_nil_of_extensionQuality? hquality)
  exact ⟨c, by simp [hc], isAlphanum_of_extensionQuality? hquality c hc⟩

/-- The file of a title is named for it. -/
theorem fileName?_join_append (folder : Path) {title extension : String}
    (hslash : '/' ∉ title.toList) (hextension : IsMediaExtension extension) :
    (folder.join (title ++ "." ++ extension)).fileName? = some (title ++ "." ++ extension) := by
  obtain ⟨quality, hquality⟩ := hextension.exists_quality
  obtain ⟨c, hc, halphanum⟩ := exists_isAlphanum_mem title hextension
  have hplain : '/' ∉ extension.toList := not_mem_of_extensionQuality? (by decide) hquality
  refine Path.fileName?_join folder ?_ ?_ ?_ ?_
  · simp [hslash, hplain]
  · exact List.ne_nil_of_mem hc
  · intro hcurrent
    rw [hcurrent, List.mem_singleton] at hc
    exact absurd (hc ▸ halphanum) (by decide)
  · intro hparent
    rw [hparent] at hc
    obtain rfl : c = '.' := by simpa using hc
    exact absurd halphanum (by decide)

/-- **The file of a release is read like its title**, and the quality model that is read of a title
alone is the one that is read with the rest of it. -/
theorem file_reads_as_title :
    (∀ (folder : Path) (title extension : String), '/' ∉ title.toList → AnnouncesQuality title →
      IsMediaExtension extension →
        ∃ parsed, ParsedRelease.ofPath? (folder.join (title ++ "." ++ extension)) = some parsed ∧
          SaysSame parsed (ParsedRelease.ofTitle title)) ∧
    ∀ title, qualityOfTitle title = (ParsedRelease.ofTitle title).quality := by
  refine ⟨?_, qualityOfTitle_eq⟩
  intro folder title extension hslash htitle hextension
  have hname := fileName?_join_append folder hslash hextension
  have hblank : isBlankText (title ++ "." ++ extension) = false := by
    obtain ⟨c, hc, halphanum⟩ := exists_isAlphanum_mem title hextension
    rw [isBlankText, List.all_eq_false]
    refine ⟨c, hc, ?_⟩
    rw [isBlank_of_isAlphanum halphanum]
    exact nofun
  refine ⟨ParsedRelease.ofTitle (title ++ "." ++ extension), ?_,
    saysSame_ofTitle_append htitle hextension⟩
  unfold ParsedRelease.ofPath?
  rw [hname]
  dsimp only
  rw [hblank]
  rfl

/-- The extension of the title becomes a word of the file name, and a different quality could be told
from either. -/
theorem discImage_reads_as_title :
    '/' ∉ "Movie.Title.2020.REAL.1080p.BluRay-GRP.iso".toList ∧
      AnnouncesQuality "Movie.Title.2020.REAL.1080p.BluRay-GRP.iso" ∧ IsMediaExtension "MKV" ∧
      ∃ parsed, ParsedRelease.ofPath? (Path.join ⟨"/downloads"⟩
          ("Movie.Title.2020.REAL.1080p.BluRay-GRP.iso" ++ "." ++ "MKV")) = some parsed ∧
        SaysSame parsed (ParsedRelease.ofTitle "Movie.Title.2020.REAL.1080p.BluRay-GRP.iso") := by
  have hslash : '/' ∉ "Movie.Title.2020.REAL.1080p.BluRay-GRP.iso".toList := by decide
  have htitle : AnnouncesQuality "Movie.Title.2020.REAL.1080p.BluRay-GRP.iso" := by
    unfold AnnouncesQuality Announces
    decide +kernel
  have hextension : IsMediaExtension "MKV" := ⟨("mkv", .hdtv720p), by decide, by decide⟩
  exact ⟨hslash, htitle, hextension, file_reads_as_title.1 ⟨"/downloads"⟩ _ _ hslash htitle hextension⟩

end Acquisition.Name
