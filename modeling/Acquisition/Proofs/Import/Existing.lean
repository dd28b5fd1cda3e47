import Acquisition.Import.Listing
import Acquisition.Proofs.Engine

/-!
# Files that lie in the library already

Some rules for an import are about downloads: they ask whether a file is still being unpacked, is a
mere sample, is of the size of the file that the media item has, or belongs to the release that was
grabbed.  A file that lies in the folder of its media item passes them unasked.  What only they look at
is then of no account for the decision, while the other rules judge the file as they judge any.

## Main definitions

* `Rule.Passes`: a rule accepts a candidate and asks no collaborator about it.
* `ImportRules.libraryRules`: the rules that judge every file.
* `ImportRules.AlikeInLibrary`: two sets of rules that differ in what is asked of downloads only.
* `LocalCandidate.asIf`: a file with other sizes and another release that it came from.

## Main results

* `Engine.decideBy_filter`: rules that a candidate passes do not count.
* `ImportRules.decide_of_existing`: a file in the library is judged by the library rules.
* `ImportRules.decide_ignores_downloads`: what is asked of downloads does not count for it.
-/

namespace Acquisition

variable {σ α : Type}

/-! ### Rules that do not count -/

/-- The rule accepts the candidate and leaves its collaborators alone. -/
def Rule.Passes (rule : Rule σ α) (candidate : α) (context : Option SearchContext) : Prop :=
  ∀ s, rule.evaluate candidate context s = (.accepted, s)

namespace Engine

theorem decideBy_cons_of_passes {rule : Rule σ α} {candidate : α} {context : Option SearchContext}
    (h : rule.Passes candidate context) (rules : List (Rule σ α)) :
    decideBy candidate context (rule :: rules) = decideBy candidate context rules := by
  funext s
  simp only [decideBy, h s]

theorem decideBy_cons_congr {rule : Rule σ α} {a b : α} {context : Option SearchContext}
    (hrule : rule.evaluate a context = rule.evaluate b context) {rules others : List (Rule σ α)}
    (hrest : decideBy a context rules = decideBy b context others) :
    decideBy a context (rule :: rules) = decideBy b context (rule :: others) := by
  funext s
  simp only [decideBy, hrule, hrest]

/-- **Rules that a candidate passes do not count.** -/
theorem decideBy_filter {keep : Rule σ α → Bool} {candidate : α} {context : Option SearchContext}
    {rules : List (Rule σ α)}
    (h : ∀ rule ∈ rules, keep rule = false → rule.Passes candidate context) :
    decideBy candidate context (rules.filter keep) = decideBy candidate context rules := by
  induction rules with
  | nil => rfl
  | cons rule rules ih =>
    obtain ⟨hrule, hrules⟩ := List.forall_mem_cons.mp h
    by_cases hkeep : keep rule = true
    · rw [List.filter_cons_of_pos hkeep]
      exact decideBy_cons_congr rfl (ih hrules)
    · rw [List.filter_cons_of_neg hkeep, decideBy_cons_of_passes (hrule (by simpa using hkeep)),
        ih hrules]

/-- Candidates that every rule judges alike are decided alike. -/
theorem decideBy_congr {a b : α} {context : Option SearchContext} {rules : List (Rule σ α)}
    (h : ∀ rule ∈ rules, rule.evaluate a context = rule.evaluate b context) :
    decideBy a context rules = decideBy b context rules := by
  induction rules with
  | nil => rfl
  | cons rule rules ih =>
    obtain ⟨hrule, hrules⟩ := List.forall_mem_cons.mp h
    exact decideBy_cons_congr hrule (ih hrules)

/-- Leaving out rules and putting the rest in order is the same in either order. -/
theorem ofRules_filter (keep : Rule σ α → Bool) (rules : List (Rule σ α)) :
    (ofRules (rules.filter keep)).rules = (ofRules rules).rules.filter keep := by
  simp only [ofRules, List.filter_flatMap, List.filter_filter, Bool.and_comm]

end Engine

namespace ImportRules

/-! ### The rules for a file in the library -/

/-- The names of the rules about downloads. -/
def isDownloadCheck (rule : String) : Bool :=
  rule == "same-file" || rule == "matches-grab" || rule == "not-unpacking" || rule == "not-sample"

/-- The rules that judge every file. -/
def libraryRules (deps : ImportRules σ) : List (Rule σ LocalCandidate) :=
  deps.rules.filter fun rule => !isDownloadCheck rule.name

theorem libraryRules_eq (deps : ImportRules σ) : deps.libraryRules =
    [hasAudioTrack, upgradeVsExisting, notMultiDisc,
      alreadyImported deps.history deps.settings.completedDownloadHandling,
      differentQuality deps.history, grabbedReleaseQuality deps.history, notMultiPart deps.disk] :=
  rfl

theorem downloadRules_eq (deps : ImportRules σ) :
    (deps.rules.filter fun rule => isDownloadCheck rule.name) =
      [sameFile, matchesGrab, notUnpacking deps.disk deps.settings deps.now,
        notSample deps.samples] :=
  rfl

section Passing

variable {file : LocalCandidate} (hexisting : file.existing = true)
  (context : Option SearchContext)

include hexisting

theorem sameFile_passes : (sameFile : Rule σ LocalCandidate).Passes file context := by
  intro s
  cases hfile : file.media.file with
  | none => simp [sameFile, Rule.pure, hfile]
  | some known => simp [sameFile, Rule.pure, hfile, hexisting]

theorem matchesGrab_passes : (matchesGrab : Rule σ LocalCandidate).Passes file context := by
  intro s
  cases hrelease : file.release with
  | none => simp [matchesGrab, Rule.pure, hrelease]
  | some release => simp [matchesGrab, Rule.pure, hrelease, hexisting]

theorem notUnpacking_passes (disk : Disk σ) (settings : DecisionSettings) (now : Instant) :
    (notUnpacking disk settings now).Passes file context := by
  intro s
  cases hfolder : workingFolder? settings.workingFolders file.path with
  | none => simp [notUnpacking, hfolder]
  | some folder => simp [notUnpacking, hfolder, hexisting]

theorem notSample_passes (samples : SampleDetector σ) :
    (notSample samples).Passes file context := by
  intro s
  simp [notSample, hexisting]

/-- **A file in the library passes every rule about downloads.** -/
theorem passes_of_isDownloadCheck {deps : ImportRules σ} {rule : Rule σ LocalCandidate}
    (hrule : rule ∈ deps.rules) (hcheck : isDownloadCheck rule.name = true) :
    rule.Passes file context := by
  have hmem : rule ∈ deps.rules.filter fun rule => isDownloadCheck rule.name :=
    List.mem_filter.mpr ⟨hrule, hcheck⟩
  rw [downloadRules_eq] at hmem
  simp only [List.mem_cons, List.not_mem_nil, or_false] at hmem
  rcases hmem with rfl | rfl | rfl | rfl
  · exact sameFile_passes hexisting context
  · exact matchesGrab_passes hexisting context
  · exact notUnpacking_passes hexisting context _ _ _
  · exact notSample_passes hexisting context _

/-- **A file in the library is judged by the library rules.** -/
theorem decide_of_existing (deps : ImportRules σ) :
    deps.engine.decide file context = (Engine.ofRules deps.libraryRules).decide file context := by
  rw [Engine.decide, Engine.decide, libraryRules, Engine.ofRules_filter, engine]
  refine (Engine.decideBy_filter fun rule hrule hkeep => ?_).symm
  exact passes_of_isDownloadCheck hexisting context (Engine.mem_ofRules_iff.mp hrule)
    (by simpa using hkeep)

end Passing

/-! ### What does not count for a file in the library -/

/-- Two sets of rules that have the same to ask of every file.  They may differ in what is asked of
downloads: the working folders and the grace period, the case sensitivity of the disk and its times,
the sample detector and the clock. -/
structure AlikeInLibrary (deps other : ImportRules σ) : Prop where
  history : deps.history = other.history
  completedDownloadHandling :
    deps.settings.completedDownloadHandling = other.settings.completedDownloadHandling
  filesIn : deps.disk.filesIn = other.disk.filesIn

theorem notMultiPart_congr {disk other : Disk σ} (h : disk.filesIn = other.filesIn) :
    notMultiPart disk = notMultiPart other := by
  unfold notMultiPart
  rw [h]

/-- Two such sets have the same rules for a file in the library. -/
theorem AlikeInLibrary.libraryRules_eq {deps other : ImportRules σ}
    (h : deps.AlikeInLibrary other) : deps.libraryRules = other.libraryRules := by
  rw [ImportRules.libraryRules_eq, ImportRules.libraryRules_eq, h.history,
    h.completedDownloadHandling, notMultiPart_congr h.filesIn]

end ImportRules

/-- The file with another size, from another release, and with another size noted down for the file
that the media item has. -/
def LocalCandidate.asIf (file : LocalCandidate) (size noted : UInt64) (release : Option Release) :
    LocalCandidate :=
  { file with
    size, release
    media := { file.media with file := file.media.file.map ({ · with size := noted }) } }

namespace ImportRules

section Sizes

variable (file : LocalCandidate) (size noted : UInt64) (release : Option Release)
  (context : Option SearchContext)

theorem upgradeVsExisting_asIf :
    (upgradeVsExisting : Rule σ LocalCandidate).evaluate (file.asIf size noted release) context =
      upgradeVsExisting.evaluate file context := by
  funext s
  cases hfile : file.media.file <;> simp [upgradeVsExisting, Rule.pure, LocalCandidate.asIf, hfile]

theorem alreadyImported_asIf (history : HistoryReader σ) (enabled : Bool) :
    (alreadyImported history enabled).evaluate (file.asIf size noted release) context =
      (alreadyImported history enabled).evaluate file context := by
  funext s
  simp only [alreadyImported, LocalCandidate.asIf, Option.isNone_map]
  rfl

/-- **No library rule looks at sizes or at the release.** -/
theorem libraryRules_asIf {deps : ImportRules σ} {rule : Rule σ LocalCandidate}
    (hrule : rule ∈ deps.libraryRules) :
    rule.evaluate (file.asIf size noted release) context = rule.evaluate file context := by
  rw [libraryRules_eq] at hrule
  simp only [List.mem_cons, List.not_mem_nil, or_false] at hrule
  rcases hrule with rfl | rfl | rfl | rfl | rfl | rfl | rfl
  case inr.inl => exact upgradeVsExisting_asIf file size noted release context
  case inr.inr.inr.inl => exact alreadyImported_asIf file size noted release context _ _
  all_goals rfl

end Sizes

/-- **What is asked of downloads does not count for a file in the library**: neither for the decision
nor for what the collaborators are asked on the way to it. -/
theorem decide_ignores_downloads {deps other : ImportRules σ} (halike : deps.AlikeInLibrary other)
    {file : LocalCandidate} (hexisting : file.existing = true) (size noted : UInt64)
    (release : Option Release) (context : Option SearchContext) :
    other.engine.decide (file.asIf size noted release) context =
      deps.engine.decide file context := by
  have hother : (file.asIf size noted release).existing = true := hexisting
  calc other.engine.decide (file.asIf size noted release) context
      = (Engine.ofRules deps.libraryRules).decide (file.asIf size noted release) context := by
        rw [decide_of_existing hother, halike.libraryRules_eq]
    _ = (Engine.ofRules deps.libraryRules).decide file context :=
        Engine.decideBy_congr fun rule hrule =>
          libraryRules_asIf file size noted release context (Engine.mem_ofRules_iff.mp hrule)
    _ = deps.engine.decide file context := (decide_of_existing hexisting context deps).symm

/-- Rules that ask nothing of downloads. -/
def lenientRules : ImportRules Unit where
  disk :=
    { fileSize := fun _ => .answer 0, filesIn := fun _ => .answer []
      lastWrite := fun _ => .answer 0, caseInsensitive := false }
  samples := .trusting
  history := .ofHistory .empty
  settings := { workingFolders := [] }
  now := 0

/-- The same rules with working folders, on a disk that cannot tell its times, with a sample detector
that does not answer. -/
def strictRules : ImportRules Unit where
  disk :=
    { lenientRules.disk with
      lastWrite := fun path => .fixed (.error (.io path "no times"))
      caseInsensitive := true }
  samples := fun _ path => .fixed (.error (.probe path "no answer"))
  history := lenientRules.history
  settings := {}
  now := 600000000000

/-- A file in the library, in a folder with the name of a working folder. -/
def shelvedFile : LocalCandidate :=
  { (default : LocalCandidate) with
    path := ⟨"/library/_UNPACK_Movie/Movie.mkv"⟩, existing := true, size := 1
    media := { (default : Media) with file := some default } }

/-- A release that is for other media. -/
def strayRelease : Release :=
  { (default : Release) with mediaIds := [2] }

/-- The file is accepted although every rule about downloads has something against it, and it would not
be if it lay outside of the library. -/
theorem shelvedFile_is_accepted :
    lenientRules.AlikeInLibrary strictRules ∧ shelvedFile.existing = true ∧
      (strictRules.engine.decide (shelvedFile.asIf 7 7 (some strayRelease)) none ()).1 = .accepted ∧
      (strictRules.engine.decide { shelvedFile.asIf 7 7 (some strayRelease) with existing := false }
        none ()).1 ≠ .accepted := by
  have halike : lenientRules.AlikeInLibrary strictRules := ⟨rfl, rfl, rfl⟩
  have hexisting : shelvedFile.existing = true := rfl
  have hsame := decide_ignores_downloads halike hexisting 7 7 (some strayRelease) none
  refine ⟨halike, hexisting, ?_, by decide +kernel⟩
  rw [hsame]
  decide +kernel

end ImportRules

end Acquisition
