import Acquisition.Import.Rules
import Acquisition.Proofs.Engine
import Acquisition.Proofs.Name.Part
import Acquisition.Proofs.Path

/-!
# Releases that were split into parts

A work that was split over several files carries a part identifier in their names.  A file is taken
for a part if a file beside it has the same name but for the identifier.  The identifier that is
looked at is the first one in the name, so a work with an identifier in its own name is not
recognised: its files still differ in the identifiers behind that one.

## Main definitions

* `SplitRelease`: the names of two parts, piece by piece.
* `SplitRelease.RejectsBoth`: wherever a folder lists both files, the rule rejects both.

## Main results

* `partBase?_eq`: what the name of a part is without the part.
* `SplitRelease.rejectsBoth_iff`: **two parts are rejected exactly if the base has no identifier of
  its own**, or the parts are numbered by one letter in two cases.
* `not_rejectsBoth`: a base with an identifier of its own.
-/

namespace Acquisition

open Name Text

/-! ### The names of two parts -/

/-- The pieces of the names of two parts of one release: base, separators, a part word, a designator
for each part, and an extension. -/
structure SplitRelease where
  base : List Char
  separator : List Char
  token : List Char
  first : List Char
  second : List Char
  extension : List Char
  /-- The base begins with a letter or a digit, or whatever else is no separator. -/
  base_begins : ∃ c ∈ base.head?, isPartSeparator c = false
  separator_ne_nil : separator ≠ []
  separators : ∀ c ∈ separator, isPartSeparator c = true
  token_isPartWord : IsPartWord token
  first_isDesignator : IsDesignator first
  second_isDesignator : IsDesignator second
  first_ne_second : first ≠ second
  /-- The extension is all that stands behind the last dot. -/
  dot_notMem : '.' ∉ extension
  /-- Both are names of files. -/
  slash_notMem : '/' ∉ base ++ extension

namespace SplitRelease

variable (names : SplitRelease)

/-- The name of a part without its extension. -/
def stem (designator : List Char) : List Char :=
  names.base ++ names.separator ++ (names.token ++ designator)

/-- The name of the file of a part. -/
def file (designator : List Char) : String :=
  String.ofList (names.stem designator ++ '.' :: names.extension)

/-- Wherever a folder lists the files of both parts, the rule rejects both of them as parts. -/
def RejectsBoth : Prop :=
  ∀ (σ : Type) (disk : Disk σ) (s s' : σ) (siblings : List Path) (candidate : LocalCandidate)
    (context : Option SearchContext),
    (∀ folder ∈ candidate.path.parent?, disk.filesIn folder s = (.ok siblings, s')) →
      (∃ path ∈ siblings, path.fileName? = some (names.file names.first)) →
        (∃ path ∈ siblings, path.fileName? = some (names.file names.second)) →
          candidate.path.fileName? = some (names.file names.first) ∨
              candidate.path.fileName? = some (names.file names.second) →
            ∃ message, (ImportRules.notMultiPart disk).verdict candidate context s =
              .reject .multiPart message

/-! ### What is left of a name -/

variable {names}

theorem stem_ne_nil (designator : List Char) : names.stem designator ≠ [] := by
  obtain ⟨c, hc, -⟩ := names.base_begins
  intro hnil
  have hbase : names.base = [] := by simp_all [stem]
  simp [hbase] at hc

theorem file_ne : names.file names.first ≠ names.file names.second := by
  intro heq
  rw [file, file, String.ofList_inj] at heq
  have hstem := List.append_cancel_right heq
  exact names.first_ne_second (List.append_cancel_left (List.append_cancel_left hstem))

theorem partBase?_eq {path : Path} {designator : List Char}
    (h : path.fileName? = some (names.file designator)) :
    ImportRules.partBase? path = withoutPart? (String.ofList (names.stem designator)) := by
  have hstem : path.fileStem? = some (String.ofList (names.stem designator)) := by
    rw [Path.fileStem?, h, Option.map_some, file,
      Path.splitName_append (stem_ne_nil designator) names.dot_notMem]
  rw [ImportRules.partBase?, hstem, Option.bind_some]

/-- Without an identifier in the base, all parts are left with one name. -/
theorem exists_partBase? (hnone : splitPartFrom [] (names.base ++ names.separator) = none) :
    ∃ name, ∀ (path : Path) (designator : List Char), IsDesignator designator →
      path.fileName? = some (names.file designator) → ImportRules.partBase? path = some name := by
  obtain ⟨name, hname⟩ := exists_withoutPart?_eq names.base_begins names.separator_ne_nil
    names.separators hnone
  refine ⟨name, fun path designator hdesignator hpath => ?_⟩
  rw [partBase?_eq hpath]
  exact hname names.token designator names.token_isPartWord hdesignator

/-- With an identifier in the base, a part is left with its designator in lower case at the end: two
parts are left with one name only if their designators are one up to case. -/
theorem exists_partBase?_of_some (hsome : splitPartFrom [] (names.base ++ names.separator) ≠ none) :
    ∃ name : List Char → String,
      (∀ (path : Path) (designator : List Char), path.fileName? = some (names.file designator) →
        ImportRules.partBase? path = some (name designator)) ∧
      ∀ a b, IsDesignator a → IsDesignator b →
        (name a = name b ↔ a.map Char.toLower = b.map Char.toLower) := by
  obtain ⟨⟨before, after⟩, hsplit⟩ := Option.ne_none_iff_exists'.mp hsome
  refine ⟨fun designator => lowercase (String.ofList (before ++ after ++ (names.token ++ designator))),
    fun path designator hpath => ?_, fun a b ha hb => ?_⟩
  · rw [partBase?_eq hpath]
    exact withoutPart?_of_some names.base_begins names.separator_ne_nil names.separators designator
      names.token_isPartWord hsplit
  · exact lowercase_append_eq_iff names.token_isPartWord.ne_nil names.token_isPartWord.isAlphanum
      (fun c hc => toNat_lt_of_isAlphanum (ha.isAlphanum c hc))
      (fun c hc => toNat_lt_of_isAlphanum (hb.isAlphanum c hc))

/-- The file of a part may lie in any folder. -/
theorem fileName?_join_file (folder : Path) {designator : List Char} (h : IsDesignator designator) :
    (folder.join (names.file designator)).fileName? = some (names.file designator) := by
  have hplain : ∀ c : Char, c.isAlphanum = true → c ≠ '/' := by
    rintro c hc rfl
    exact absurd hc (by decide)
  have hslash : '/' ∉ (names.file designator).toList := by
    have hnames := names.slash_notMem
    have hseparator : '/' ∉ names.separator :=
      fun hmem => absurd (names.separators '/' hmem) (by decide)
    have htoken : '/' ∉ names.token :=
      fun hmem => hplain '/' (names.token_isPartWord.isAlphanum '/' hmem) rfl
    have hdesignator : '/' ∉ designator := fun hmem => hplain '/' (h.isAlphanum '/' hmem) rfl
    rw [List.mem_append, not_or] at hnames
    simp [file, stem, hnames, hseparator, htoken, hdesignator]
  -- the name does not begin with a dot, so it is none of the names of folders
  have hdot : (names.file designator).toList.head? ≠ some '.' := by
    obtain ⟨c, hc, hseparator⟩ := names.base_begins
    cases hbase : names.base with
    | nil => simp [hbase] at hc
    | cons d base =>
      obtain rfl : d = c := by simpa [hbase] using hc
      simp only [file, stem, hbase, String.toList_ofList, List.cons_append, List.head?_cons]
      rintro ⟨⟩
      exact absurd hseparator (by decide)
  refine Path.fileName?_join folder hslash ?_ ?_ ?_
  · simp [file]
  · exact fun heq => hdot (heq ▸ rfl)
  · exact fun heq => hdot (heq ▸ rfl)

/-! ### The verdict on a part -/

theorem one_lt_countP {α : Type} {p : α → Bool} {l : List α} {a b : α} (ha : a ∈ l) (hb : b ∈ l)
    (hpa : p a = true) (hpb : p b = true) (hne : a ≠ b) : 1 < l.countP p := by
  obtain ⟨front, back, rfl⟩ := List.append_of_mem ha
  have hother : b ∈ front ++ back := by
    simp only [List.mem_append, List.mem_cons] at hb ⊢
    tauto
  have hpos : 0 < (front ++ back).countP p := List.countP_pos_iff.mpr ⟨b, hother, hpb⟩
  rw [List.countP_append] at hpos
  rw [List.countP_append, List.countP_cons_of_pos hpa]
  omega

theorem notMultiPart_verdict {σ : Type} {disk : Disk σ} {s s' : σ} {siblings : List Path}
    {candidate : LocalCandidate} (context : Option SearchContext) {base : String} {folder : Path}
    (hbase : ImportRules.partBase? candidate.path = some base)
    (hfolder : candidate.path.parent? = some folder)
    (hlist : disk.filesIn folder s = (.ok siblings, s')) :
    (ImportRules.notMultiPart disk).verdict candidate context s =
      ImportRules.partsVerdict base siblings := by
  simp only [Rule.verdict, ImportRules.notMultiPart, hbase, hfolder, hlist]

/-- Without an identifier in the base, both parts are rejected. -/
theorem rejectsBoth_of_one_name {name : String}
    (hfirst : ∀ path : Path, path.fileName? = some (names.file names.first) →
      ImportRules.partBase? path = some name)
    (hsecond : ∀ path : Path, path.fileName? = some (names.file names.second) →
      ImportRules.partBase? path = some name) : names.RejectsBoth := by
  rintro σ disk s s' siblings candidate context hlist ⟨one, hone, honeName⟩
    ⟨other, hother, hotherName⟩ hcandidate
  have hfile : ∃ file, candidate.path.fileName? = some file := by
    rcases hcandidate with h | h <;> exact ⟨_, h⟩
  obtain ⟨file, hfile⟩ := hfile
  obtain ⟨folder, hfolder⟩ := Path.exists_parent? hfile
  have hbase : ImportRules.partBase? candidate.path = some name :=
    hcandidate.elim (hfirst _) (hsecond _)
  -- the two files are different, and both count
  have hne : one ≠ other := by
    rintro rfl
    rw [honeName] at hotherName
    exact file_ne (Option.some.inj hotherName)
  have hcount : 1 < siblings.countP fun sibling => ImportRules.partBase? sibling == some name :=
    one_lt_countP hone hother (beq_iff_eq.mpr (hfirst one honeName))
      (beq_iff_eq.mpr (hsecond other hotherName)) hne
  rw [notMultiPart_verdict context hbase hfolder (hlist folder hfolder), ImportRules.partsVerdict,
    if_pos hcount]
  exact ⟨_, rfl⟩

/-- A disk with one folder. -/
def oneFolder (siblings : List Path) : Disk Unit where
  fileSize _ := .answer 0
  filesIn _ := .answer siblings
  lastWrite _ := .answer 0
  caseInsensitive := false

/-- Parts that are left with two names are accepted side by side. -/
theorem not_rejectsBoth_of_two_names {name name' : String} (hne : name ≠ name')
    (hfirst : ∀ path : Path, path.fileName? = some (names.file names.first) →
      ImportRules.partBase? path = some name)
    (hsecond : ∀ path : Path, path.fileName? = some (names.file names.second) →
      ImportRules.partBase? path = some name') : ¬ names.RejectsBoth := by
  intro hrejects
  obtain ⟨one, hone⟩ : ∃ one : Path, one.fileName? = some (names.file names.first) :=
    ⟨_, fileName?_join_file ⟨"/downloads"⟩ names.first_isDesignator⟩
  obtain ⟨other, hother⟩ : ∃ other : Path, other.fileName? = some (names.file names.second) :=
    ⟨_, fileName?_join_file ⟨"/downloads"⟩ names.second_isDesignator⟩
  obtain ⟨candidate, rfl⟩ : ∃ candidate : LocalCandidate, candidate.path = one :=
    ⟨{ (default : LocalCandidate) with path := one }, rfl⟩
  obtain ⟨folder, hfolder⟩ := Path.exists_parent? hone
  let siblings := [candidate.path, other]
  have hcount : siblings.countP (fun sibling => ImportRules.partBase? sibling == some name) = 1 := by
    simp [siblings, hfirst _ hone, hsecond other hother, Ne.symm hne]
  have hverdict : (ImportRules.notMultiPart (oneFolder siblings)).verdict candidate none () =
      .accepted := by
    rw [notMultiPart_verdict none (hfirst _ hone) hfolder rfl, ImportRules.partsVerdict, hcount]
    rfl
  obtain ⟨message, hreject⟩ := hrejects Unit (oneFolder siblings) () () siblings candidate none
    (fun _ _ => rfl) ⟨_, List.mem_cons_self, hone⟩ ⟨other, by simp [siblings], hother⟩ (Or.inl hone)
  rw [hverdict] at hreject
  exact absurd hreject nofun

/-- An identifier in the base lets both parts pass, unless their designators are one up to case. -/
theorem not_rejectsBoth_of_some (hsome : splitPartFrom [] (names.base ++ names.separator) ≠ none)
    (hdiffer : names.first.map Char.toLower ≠ names.second.map Char.toLower) :
    ¬ names.RejectsBoth := by
  obtain ⟨name, hname, hinj⟩ := exists_partBase?_of_some hsome
  have hne : name names.first ≠ name names.second :=
    mt (hinj _ _ names.first_isDesignator names.second_isDesignator).mp hdiffer
  exact not_rejectsBoth_of_two_names hne (fun path => hname path _) fun path => hname path _

/-- **Two parts are rejected exactly if the base has no part identifier of its own**, or if they are
numbered by one letter in upper and lower case.  The law asks for their rejection whatever the base
is. -/
theorem rejectsBoth_iff (names : SplitRelease) : names.RejectsBoth ↔
    splitPartFrom [] (names.base ++ names.separator) = none ∨
      names.first.map Char.toLower = names.second.map Char.toLower := by
  constructor
  · intro hrejects
    by_contra hneither
    rw [not_or] at hneither
    exact not_rejectsBoth_of_some hneither.1 hneither.2 hrejects
  · intro hcases
    by_cases hnone : splitPartFrom [] (names.base ++ names.separator) = none
    · obtain ⟨name, hname⟩ := exists_partBase? hnone
      exact rejectsBoth_of_one_name
        (fun path => hname path names.first names.first_isDesignator)
        (fun path => hname path names.second names.second_isDesignator)
    · obtain ⟨name, hname, hinj⟩ := exists_partBase?_of_some hnone
      have heq : name names.first = name names.second :=
        (hinj _ _ names.first_isDesignator names.second_isDesignator).mpr
          (hcases.resolve_left hnone)
      exact rejectsBoth_of_one_name (fun path => hname path _) fun path => heq ▸ hname path _

/-! ### A work with a part in its name -/

/-- The first part of a work in two parts, split over two discs. -/
def firstOfTwo : SplitRelease where
  base := "Movie.Part.1.2003".toList
  separator := ".".toList
  token := "cd".toList
  first := "1".toList
  second := "2".toList
  extension := "mkv".toList
  base_begins := ⟨'M', rfl, rfl⟩
  separator_ne_nil := by decide
  separators := List.all_eq_true.mp (by decide)
  token_isPartWord := ⟨"cd", by decide, by decide⟩
  first_isDesignator := .digit rfl
  second_isDesignator := .digit rfl
  first_ne_second := by decide
  dot_notMem := by decide
  slash_notMem := by decide

/-- Parts are not rejected whatever the work is called. -/
theorem not_rejectsBoth : ¬ ∀ names : SplitRelease, names.RejectsBoth := by
  intro hlaw
  have hsome : splitPartFrom [] (firstOfTwo.base ++ firstOfTwo.separator) ≠ none := by decide
  exact not_rejectsBoth_of_some hsome (by decide) (hlaw firstOfTwo)

end SplitRelease

end Acquisition
