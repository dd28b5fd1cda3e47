import Acquisition.Proofs.Import.Paths
import Acquisition.Proofs.Sorting

/-!
# What an import comes to

An import decides about every path of its request, ranks the files that passed, and hands them to
the organizer, best first, until it takes one.  Every path ends up in one place of the report: the
one file that was imported, those that were rejected, those that the organizer refused, and those
that were not needed any more.

The collaborators may answer as they like, and may change with every answer; the organizer may
refuse whichever file it likes.

## Main definitions

* `LocalCandidate.Ahead`: which of two files is tried first.
* `LocalCandidate.takenRecord`, `LocalCandidate.takenEvent`: what is written and announced of a file
  that the organizer took.
* `Refused`, `HandsOver`: what comes of handing over files, best first.
* `Imports`: what comes of an import, and what it leaves.

## Main results

* `importFirst_handsOver`: handing over stops at the first file that is taken.
* `HandsOver.accounts`: every file that is handed over is accounted for.
* `ImportDesk.importFiles_settles`: **an import settles every path of its request**, whatever the
  order of the paths.
-/

namespace Acquisition

/-! ### Which file is tried first -/

namespace LocalCandidate

/-- Under the profile, the first of two files is tried before the second. -/
inductive Ahead (profile : Profile) (a b : LocalCandidate) : Prop
  | better (hquality : profile.cmp a.quality b.quality = .gt)
  | bigger (hquality : profile.cmp a.quality b.quality = .eq) (hsize : b.size < a.size)
  | earlier (hquality : profile.cmp a.quality b.quality = .eq) (hsize : b.size = a.size)
    (hpath : a.path.cmp b.path = .lt)

/-- The order of files by quality, then by size, all of them under one profile. -/
def cmpUnder (profile : Profile) (a b : LocalCandidate) : Ordering :=
  (profile.cmp a.quality b.quality).then (compare a.size b.size)

/-- Qualities, revisions and sizes are compared as numbers, one after the other. -/
instance (profile : Profile) : Std.TransCmp (cmpUnder profile) :=
  inferInstanceAs (Std.TransCmp (compareLex
    (compareLex (compareOn fun candidate => profile.rank candidate.quality.quality)
      (compareLex (compareOn fun candidate => candidate.quality.revision.real)
        (compareOn fun candidate => candidate.quality.revision.version)))
    (compareOn LocalCandidate.size)))

/-- The order of the import is the order under the profile, for files under the profile. -/
theorem cmp_eq_cmpUnder {profile : Profile} {a : LocalCandidate} (ha : a.profile = profile)
    (b : LocalCandidate) : a.cmp b = cmpUnder profile a b := by
  rw [cmp, cmpUnder, ha]

theorem ahead_of_cmpUnder_gt {profile : Profile} {a b : LocalCandidate}
    (h : cmpUnder profile a b = .gt) : Ahead profile a b := by
  rw [cmpUnder, Ordering.then_eq_gt] at h
  rcases h with hquality | ⟨hquality, hsize⟩
  · exact .better hquality
  · exact .bigger hquality (Std.compare_eq_gt.mp hsize)

/-- Of two files that neither is better, the one with the earlier path is ahead. -/
theorem ahead_of_cmpUnder_eq {profile : Profile} {a b : LocalCandidate}
    (h : cmpUnder profile a b = .eq) (hpath : a.path.cmp b.path = .lt) : Ahead profile a b := by
  rw [cmpUnder, Ordering.then_eq_eq] at h
  exact .earlier h.1 (Std.LawfulEqOrd.eq_of_compare h.2).symm hpath

/-- **Ranking files**: those that came in the order of their paths are ranked by quality, then by
size, then by path. -/
theorem rank_pairwise {profile : Profile} {candidates : List LocalCandidate}
    (hprofile : ∀ candidate ∈ candidates, candidate.profile = profile)
    (hpaths : candidates.Pairwise fun a b => a.path.cmp b.path = .lt) :
    (candidates.mergeSort fun a b => b.cmp a != .gt).Pairwise (Ahead profile) := by
  let le := fun a b : LocalCandidate => (cmpUnder profile b a).isLE
  have hsame : (candidates.mergeSort fun a b => b.cmp a != .gt) = candidates.mergeSort le := by
    refine mergeSort_congr fun a _ b hb => ?_
    rw [cmp_eq_cmpUnder (hprofile b hb) a]
    exact Ordering.isLE_eq_not_beq_gt.symm
  have htrans : ∀ a b c, le a b = true → le b c = true → le a c = true :=
    fun a b c hab hbc => Std.TransCmp.isLE_trans hbc hab
  have htotal : ∀ a b, (le a b || le b a) = true := fun a b => isLE_or_isLE b a
  rw [hsame]
  refine (pairwise_mergeSort_of_pairwise htrans htotal hpaths).imp fun {a b} hab => ?_
  obtain ⟨hle, htie⟩ := hab
  by_cases hbetter : cmpUnder profile a b = .gt
  · exact ahead_of_cmpUnder_gt hbetter
  · have hback : (cmpUnder profile a b).isLE = true := Ordering.isLE_iff_ne_gt.mpr hbetter
    exact ahead_of_cmpUnder_eq (Std.OrientedCmp.isLE_antisymm hback hle) (htie hback)

end LocalCandidate

/-! ### Decisions about paths -/

/-- The files that passed. -/
def approvedFiles (decisions : List ImportDecision) : List LocalCandidate :=
  (decisions.filter (·.decision.isAccepted)).map (·.candidate)

/-- The decisions about the files that did not pass. -/
def rejectedDecisions (decisions : List ImportDecision) : List ImportDecision :=
  decisions.filter (!·.decision.isAccepted)

theorem length_approvedFiles_add (decisions : List ImportDecision) :
    (approvedFiles decisions).length + (rejectedDecisions decisions).length = decisions.length := by
  have hperm := List.filter_append_perm (fun decision : ImportDecision =>
    decision.decision.isAccepted) decisions
  rw [approvedFiles, rejectedDecisions, List.length_map, ← List.length_append]
  exact hperm.length_eq

variable {ω : Type} {setup : ImportSetup ω} {now : Instant}

namespace ImportDesk

/-- Whatever is found out about a file, it is about the path, under the profile. -/
theorem decide_candidate (setup : ImportSetup ω) (now : Instant) (request : ImportRequest)
    (profile : Profile) (history : History) (path : Path) (s : ω) :
    (decide setup now request profile history path s).1.candidate.path = path ∧
      (decide setup now request profile history path s).1.candidate.profile = profile := by
  rw [decide]
  cases ParsedRelease.ofPath? path with
  | none => exact ⟨rfl, rfl⟩
  | some parsed =>
    dsimp only
    rcases setup.disk.fileSize path s with ⟨error | size, s⟩
    · exact ⟨rfl, rfl⟩
    · exact ⟨rfl, rfl⟩

theorem decideAll_cons (setup : ImportSetup ω) (now : Instant) (request : ImportRequest)
    (profile : Profile) (history : History) (path : Path) (paths : List Path) (s : ω) :
    (decideAll setup now request profile history (path :: paths) s).1 =
      (decide setup now request profile history path s).1 ::
        (decideAll setup now request profile history paths
          (decide setup now request profile history path s).2).1 := rfl

/-- There is one decision about each path, in order. -/
theorem decideAll_paths (setup : ImportSetup ω) (now : Instant) (request : ImportRequest)
    (profile : Profile) (history : History) (paths : List Path) (s : ω) :
    (decideAll setup now request profile history paths s).1.map (·.candidate.path) = paths := by
  induction paths generalizing s with
  | nil => rfl
  | cons path paths ih =>
    rw [decideAll_cons, List.map_cons, ih, (decide_candidate _ _ _ _ _ _ _).1]

theorem decideAll_profile (setup : ImportSetup ω) (now : Instant) (request : ImportRequest)
    (profile : Profile) (history : History) (paths : List Path) (s : ω) :
    ∀ decision ∈ (decideAll setup now request profile history paths s).1,
      decision.candidate.profile = profile := by
  induction paths generalizing s with
  | nil => exact fun decision hmem => absurd hmem List.not_mem_nil
  | cons path paths ih =>
    rw [decideAll_cons, List.forall_mem_cons]
    exact ⟨(decide_candidate _ _ _ _ _ _ _).2, ih _⟩

end ImportDesk

/-! ### Handing over -/

/-- The organizer refuses files one after the other; each is asked about once, in the state that the
one before left. -/
inductive Refused (organizer : Organizer ω) :
    ω → List LocalCandidate → List ImportFailure → ω → Prop
  | nil (s : ω) : Refused organizer s [] [] s
  | cons {candidate : LocalCandidate} {candidates : List LocalCandidate}
      {cause : CollaboratorError} {failures : List ImportFailure} {s t u : ω}
      (hrefused : organizer candidate s = (.error cause, t))
      (rest : Refused organizer t candidates failures u) :
    Refused organizer s (candidate :: candidates) (⟨candidate.path, cause⟩ :: failures) u

theorem Refused.length_eq {organizer : Organizer ω} {s t : ω} {candidates : List LocalCandidate}
    {failures : List ImportFailure} (h : Refused organizer s candidates failures t) :
    failures.length = candidates.length := by
  induction h with
  | nil => rfl
  | cons _ _ ih => rw [List.length_cons, List.length_cons, ih]

namespace LocalCandidate

/-- The file as it is written down: without a group it gets the one of the candidate. -/
def named (candidate : LocalCandidate) (file : MediaFile) : MediaFile :=
  { file with group := file.group <|> candidate.group }

/-- What the history says about a file that was taken: it goes by the title of its release, else by
the one that its name was read as, else by its path. -/
def takenRecord (candidate : LocalCandidate) (now : Instant) : HistoryRecord where
  mediaId := candidate.media.id
  event := .downloadFolderImported
  downloadId := candidate.downloadId
  quality := candidate.quality
  languages := candidate.languages
  sourceTitle := (candidate.release.map (·.title) <|> candidate.parsed.map (·.title)).getD
    candidate.path.text
  indexer := candidate.release.map (·.indexer)
  protocol := candidate.release.map (·.protocol)
  date := now
  message := none

/-- What is announced of a file that was taken: which file of the library it became, and whose. -/
def takenEvent (candidate : LocalCandidate) (file : MediaFile) (now : Instant) : Event Json where
  topic := .mediaFileImported
  occurredAt := now
  payload := .obj [
    ("media_id", .str (Text.Uuid.write candidate.media.id)),
    ("media_file_id", .str (Text.Uuid.write file.id)),
    ("path", .str file.path.text),
    ("release_group", .optional .str (candidate.named file).group),
    ("download_id", .optional .str candidate.downloadId)]

end LocalCandidate

/-- Handing over ranked files: what is added to a report, and the desk afterwards. -/
inductive HandsOver (setup : ImportSetup ω) (now : Instant) (report : ImportReport)
    (before : ImportDesk ω) : List LocalCandidate → ImportReport → ImportDesk ω → Prop
  /-- All files are refused, and nothing is written or announced. -/
  | nothing {tried : List LocalCandidate} {failures : List ImportFailure} {world : ω}
      (hrefused : Refused setup.organizer before.world tried failures world) :
    HandsOver setup now report before tried
      { report with failed := report.failed ++ failures }
      { before with world }
  /-- A file is taken after those ahead of it were refused, and those behind it are skipped.  One
  record is written and one event is published. -/
  | one {tried spared : List LocalCandidate} {failures : List ImportFailure} {middle world : ω}
      {candidate : LocalCandidate} {file : MediaFile}
      (hrefused : Refused setup.organizer before.world tried failures middle)
      (htaken : setup.organizer candidate middle = (.ok file, world)) :
    HandsOver setup now report before (tried ++ candidate :: spared)
      { report with
        imported := [candidate.named file]
        skipped := spared.map (·.path)
        failed := report.failed ++ failures }
      { history := ⟨before.history.records ++ [candidate.takenRecord now]⟩
        events := before.events ++ [candidate.takenEvent file now]
        world }

/-- A refusal goes to the end of the report, and the rest is handed over as if it had begun
there. -/
theorem HandsOver.refused {report result : ImportReport} {before after : ImportDesk ω}
    {candidate : LocalCandidate} {candidates : List LocalCandidate} {cause : CollaboratorError}
    {world : ω} (horganizer : setup.organizer candidate before.world = (.error cause, world))
    (h : HandsOver setup now { report with failed := report.failed ++ [⟨candidate.path, cause⟩] }
      { before with world } candidates result after) :
    HandsOver setup now report before (candidate :: candidates) result after := by
  cases h with
  | nothing hrefused =>
    rw [List.append_assoc, List.singleton_append]
    exact .nothing (.cons horganizer hrefused)
  | @one tried spared failures middle world' next file hrefused htaken =>
    have hall : HandsOver setup now report before ((candidate :: tried) ++ next :: spared) _ _ :=
      .one (.cons horganizer hrefused) htaken
    rw [List.append_assoc, List.singleton_append]
    exact hall

/-- **Handing over stops at the first file that is taken.** -/
theorem ImportDesk.importFirst_handsOver (setup : ImportSetup ω) (now : Instant)
    (ranked : List LocalCandidate) (report : ImportReport) (desk : ImportDesk ω) :
    HandsOver setup now report desk ranked (desk.importFirst setup now ranked report).1
      (desk.importFirst setup now ranked report).2 := by
  induction ranked generalizing report desk with
  | nil =>
    have hnothing : HandsOver setup now report desk [] _ _ := .nothing (.nil desk.world)
    rw [List.append_nil] at hnothing
    exact hnothing
  | cons candidate candidates ih =>
    rw [importFirst, importOne]
    rcases horganizer : setup.organizer candidate desk.world with ⟨cause | file, world⟩
    · exact .refused horganizer (ih _ _)
    · have htaken : HandsOver setup now report desk ([] ++ candidate :: candidates) _ _ :=
        .one (.nil desk.world) horganizer
      rw [List.append_nil] at htaken
      exact htaken

/-- The report accounts for the files: one was imported at most, and every one is in one place. -/
theorem HandsOver.accounts {decided : List ImportDecision} {before after : ImportDesk ω}
    {ranked : List LocalCandidate} {report : ImportReport}
    (h : HandsOver setup now { rejected := decided } before ranked report after) :
    report.imported.length ≤ 1 ∧ report.rejected = decided ∧
      report.imported.length + report.skipped.length + report.failed.length = ranked.length := by
  cases h with
  | nothing hrefused =>
    refine ⟨Nat.zero_le 1, rfl, ?_⟩
    have hlength := hrefused.length_eq
    simp [hlength]
  | one hrefused htaken =>
    refine ⟨Nat.le_refl 1, rfl, ?_⟩
    have hlength := hrefused.length_eq
    simp [hlength]
    omega

/-! ### The whole import -/

/-- Importing: what comes of it, and the desk afterwards. -/
inductive Imports (setup : ImportSetup ω) (now : Instant) (request : ImportRequest)
    (paths : List Path) (before : ImportDesk ω) :
    Except ConfigError ImportReport → ImportDesk ω → Prop
  /-- The media item has a profile that is not configured: no collaborator is asked. -/
  | misconfigured {error : ConfigError}
      (hprofile : setup.store.profile request.media.profileId = .error error) :
    Imports setup now request paths before (.error error) before
  /-- Every path is decided about, and what passed is ranked and handed over. -/
  | settled {profile : Profile} {listed : List Path} {decisions : List ImportDecision} {world : ω}
      {ranked : List LocalCandidate} {report : ImportReport} {after : ImportDesk ω}
      (hprofile : setup.store.profile request.media.profileId = .ok profile)
      (hlisted : Lists listed paths)
      (hdecided : ImportDesk.decideAll setup now request profile before.history listed
        before.world = (decisions, world))
      (hperm : ranked.Perm (approvedFiles decisions))
      (hranked : ranked.Pairwise (LocalCandidate.Ahead profile))
      (hhands : HandsOver setup now { rejected := rejectedDecisions decisions }
        { before with world } ranked report after) :
    Imports setup now request paths before (.ok report) after

/-- One file was imported at most, and every distinct path is in one place of the report. -/
structure ImportReport.Accounts (report : ImportReport) (paths : List Path) : Prop where
  imported_le : report.imported.length ≤ 1
  total : report.imported.length + report.rejected.length + report.skipped.length +
    report.failed.length = (paths.map Path.components).toFinset.card

theorem Imports.accounts {request : ImportRequest} {paths : List Path}
    {before after : ImportDesk ω} {report : ImportReport}
    (h : Imports setup now request paths before (.ok report) after) : report.Accounts paths := by
  cases h with
  | settled hprofile hlisted hdecided hperm hranked hhands =>
    rename_i profile listed decisions world ranked
    obtain ⟨hone, hrejected, hhanded⟩ := hhands.accounts
    have hpaths : decisions.map (·.candidate.path) = listed := by
      have hall := ImportDesk.decideAll_paths setup now request profile before.history listed
        before.world
      rw [hdecided] at hall
      exact hall
    have hdecisions : decisions.length = (paths.map Path.components).toFinset.card := by
      rw [← hlisted.length_eq, ← hpaths, List.length_map]
    have happroved : ranked.length = (approvedFiles decisions).length := hperm.length_eq
    have hsplit := length_approvedFiles_add decisions
    refine ⟨hone, ?_⟩
    rw [hrejected]
    omega

namespace ImportDesk

variable {request : ImportRequest} {paths : List Path} {before : ImportDesk ω}

theorem importFiles_imports (setup : ImportSetup ω) (now : Instant) (request : ImportRequest)
    (paths : List Path) (before : ImportDesk ω) :
    Imports setup now request paths before (before.importFiles setup now request paths).1
      (before.importFiles setup now request paths).2 := by
  cases hprofile : setup.store.profile request.media.profileId with
  | error error =>
    have hrefused : before.importFiles setup now request paths = (.error error, before) := by
      rw [importFiles, evaluate, hprofile]
    rw [hrefused]
    exact .misconfigured hprofile
  | ok profile =>
    rcases hdecided : decideAll setup now request profile before.history (orderedPaths paths)
      before.world with ⟨decisions, world⟩
    let ranked := (approvedFiles decisions).mergeSort fun a b => b.cmp a != .gt
    have hsettled : before.importFiles setup now request paths =
        (.ok (importFirst setup now ranked { rejected := rejectedDecisions decisions }
            { before with world }).1,
          (importFirst setup now ranked { rejected := rejectedDecisions decisions }
            { before with world }).2) := by
      rw [importFiles, evaluate, hprofile]
      simp only [hdecided, List.partition_eq_filter_filter]
      rfl
    have hlisted := orderedPaths_lists paths
    have hprofiles : ∀ candidate ∈ approvedFiles decisions, candidate.profile = profile := by
      refine List.forall_mem_map.mpr fun decision hmem => ?_
      have hall := decideAll_profile setup now request profile before.history (orderedPaths paths)
        before.world
      rw [hdecided] at hall
      exact hall decision (List.mem_filter.mp hmem).1
    -- the files come in the order of their paths before they are ranked
    have hincreasing : (approvedFiles decisions).Pairwise fun a b => a.path.cmp b.path = .lt := by
      have hpaths := decideAll_paths setup now request profile before.history (orderedPaths paths)
        before.world
      rw [hdecided] at hpaths
      have hall := hlisted.increasing
      rw [← hpaths, List.pairwise_map] at hall
      exact List.pairwise_map.mpr (hall.sublist List.filter_sublist)
    rw [hsettled]
    exact .settled hprofile hlisted hdecided (List.mergeSort_perm _ _)
      (LocalCandidate.rank_pairwise hprofiles hincreasing)
      (importFirst_handsOver setup now ranked _ _)

/-- **An import settles every path of its request.**  Either the profile is not configured, and no
collaborator is asked and nothing is written.  Or every distinct path is accounted for: the files
that passed are handed to the organizer by quality, size and path; those ahead of the one that it
takes failed, those behind it are skipped, and one record and one event tell of it.  Where the same
paths are written in the same way, the order in which they are given does not matter, whatever the
collaborators answer. -/
theorem importFiles_settles (setup : ImportSetup ω) (now : Instant) (request : ImportRequest)
    (paths : List Path) (before : ImportDesk ω) :
    let outcome := before.importFiles setup now request paths
    Imports setup now request paths before outcome.1 outcome.2 ∧
      (∀ report, outcome.1 = .ok report → report.Accounts paths) ∧
      ((∀ a ∈ paths, ∀ b ∈ paths, a.same b = true → a = b) →
        ∀ paths', (∀ path, path ∈ paths' ↔ path ∈ paths) →
          before.importFiles setup now request paths' = outcome) := by
  intro outcome
  have himports : Imports setup now request paths before outcome.1 outcome.2 :=
    importFiles_imports setup now request paths before
  refine ⟨himports, fun report hreport => ?_, fun hwritten paths' hmem => ?_⟩
  · rw [hreport] at himports
    exact himports.accounts
  · show before.importFiles setup now request paths' = before.importFiles setup now request paths
    rw [importFiles, importFiles, orderedPaths_congr hwritten hmem]

end ImportDesk

end Acquisition
