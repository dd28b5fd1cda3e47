import Acquisition.Proofs.Desk.Blocking
import Acquisition.Proofs.Import.AlreadyImported
import Acquisition.Proofs.Profile

/-!
# Importing what was grabbed

The rules for an import compare qualities on their own: with the file that the media item has, and
with what the history says was grabbed.  A release that was accepted for a grab was compared with
the same file from the other side, and the grab wrote the record that the import reads.  So the
rules for an import have nothing against what was grabbed, as long as the record of the grab is the
newest one of the download.

## Main definitions

* `HistoryReader.AnswersFrom`: the history answers, and from one log.
* `History.Settles`: the record is the newest grab of a download, and nothing contradicts it.
* `LocalCandidate.ComesFrom`: the file is of the download of a candidate.
* `ImportRules.grabChecks`: the rules that compare a file with what was grabbed.

## Main results

* `ImportRules.alreadyImported_accepts_iff`, `ImportRules.differentQuality_accepts_iff`,
  `ImportRules.grabbedReleaseQuality_accepts_iff`: what each rule lets through.
* `ImportRules.accepts_what_was_grabbed`: **what is accepted for a grab is not refused for it when
  it is imported.**
-/

namespace Acquisition

/-! ### A history that answers -/

/-- Whatever its state, the collaborator answers every question, and from the log. -/
structure HistoryReader.AnswersFrom {σ : Type} (reader : HistoryReader σ) (history : History) :
    Prop where
  forMedia : ∀ mediaId s, ∃ t, reader.forMedia mediaId s = (.ok (history.forMedia mediaId), t)
  forDownload : ∀ downloadId s,
    ∃ t, reader.forDownload downloadId s = (.ok (history.forDownload downloadId), t)

theorem HistoryReader.ofHistory_answersFrom {σ : Type} (history : History) :
    (HistoryReader.ofHistory history : HistoryReader σ).AnswersFrom history where
  forMedia _ s := ⟨s, rfl⟩
  forDownload _ s := ⟨s, rfl⟩

/-- A question that is answered is answered under another form. -/
theorem Reading.map_eq_ok {σ α β : Type} (f : α → β) {reading : Reading σ α} {s t : σ} {answer : α}
    (h : reading s = (.ok answer, t)) : reading.map f s = (.ok (f answer), t) := by
  rw [Reading.map, h]
  rfl

namespace HistoryReader.AnswersFrom

variable {σ : Type} {reader : HistoryReader σ} {history : History}

theorem latestForMedia (h : reader.AnswersFrom history) (mediaId : MediaId) (event : HistoryEvent)
    (s : σ) : ∃ t, reader.latestForMedia mediaId event s =
      (.ok (history.latest? mediaId event), t) :=
  (h.forMedia mediaId s).imp fun _ => Reading.map_eq_ok _

theorem latestForDownload (h : reader.AnswersFrom history) (downloadId : String)
    (event : HistoryEvent) (s : σ) : ∃ t, reader.latestForDownload downloadId event s =
      (.ok ((history.forDownload downloadId).find? (·.event == event)), t) :=
  (h.forDownload downloadId s).imp fun _ => Reading.map_eq_ok _

end HistoryReader.AnswersFrom

/-! ### What a grab leaves -/

namespace History

variable {history : History} {downloadId : String} {record : HistoryRecord}

/-- The record is the newest grab of the download.  Every other grab of the download was of the same
quality model or of an unknown quality, and every import of the media item is dated before it. -/
structure Settles (history : History) (downloadId : String) (record : HistoryRecord) : Prop where
  newest : (history.forDownload downloadId).find? (·.event == .grabbed) = some record
  alike : ∀ other ∈ history.records, other.concerns downloadId = true → other.event = .grabbed →
    other.quality.same record.quality = true ∨ other.quality.quality.isUnknown = true
  imports : ∀ other ∈ history.records,
    other.isFor record.mediaId .downloadFolderImported = true → other.date < record.date

namespace Settles

theorem mem (h : history.Settles downloadId record) : record ∈ history.records :=
  (mem_forDownload_iff.mp (List.mem_of_find?_eq_some h.newest)).1

theorem isFor (h : history.Settles downloadId record) :
    record.isFor record.mediaId .grabbed = true := by
  have hnewest := h.newest
  have hevent := List.find?_some hnewest
  rw [HistoryRecord.isFor, BEq.rfl, hevent, Bool.and_self]

/-- The media item has a latest grab, dated after every import of it. -/
theorem exists_latest (h : history.Settles downloadId record) :
    ∃ grab, history.latest? record.mediaId .grabbed = some grab ∧
      ∀ other ∈ history.records,
        other.isFor record.mediaId .downloadFolderImported = true → other.date < grab.date := by
  obtain ⟨grab, hfind, hle⟩ := exists_latest? h.mem h.isFor
  refine ⟨grab, hfind, fun other hmem hother => ?_⟩
  have hbefore : other.date < record.date := h.imports other hmem hother
  exact Int.lt_of_lt_of_le hbefore hle

end Settles

end History

/-- The file is one of the download of the candidate: it is for the same media item under the same
profile, and of the same quality model. -/
structure LocalCandidate.ComesFrom (file : LocalCandidate) (grabbed : GrabCandidate)
    (downloadId : String) : Prop where
  media : file.media = grabbed.media
  profile : file.profile = grabbed.profile
  quality : file.quality.same grabbed.quality = true
  downloadId : file.downloadId = some downloadId

/-! ### One rule at a time -/

namespace ImportRules

variable {σ : Type} {reader : HistoryReader σ} {history : History} {candidate : LocalCandidate}

theorem upgradeVsExisting_accepts_iff (candidate : LocalCandidate)
    (context : Option SearchContext) (s : σ) :
    (upgradeVsExisting : Rule σ LocalCandidate).verdict candidate context s = .accepted ↔
      ∀ file, candidate.media.file = some file →
        candidate.profile.cmp file.quality candidate.quality ≠ .gt := by
  simp only [Rule.verdict, upgradeVsExisting, Rule.pure]
  cases candidate.media.file with
  | none => simp
  | some file =>
    simp only [beq_iff_eq, Option.some.injEq, forall_eq']
    split
    next hworse => exact iff_of_false (Decision.reject_ne_accepted _ _) fun h => h hworse
    next hnot => exact iff_of_true rfl hnot

/-- The latest import does not count once it was followed by a grab, or if it was of another
download. -/
theorem importedVerdict_eq_accepted_iff {imported : HistoryRecord}
    {grabbed : Option HistoryRecord} :
    importedVerdict candidate imported grabbed = .accepted ↔
      (∃ grab, grabbed = some grab ∧ imported.date < grab.date) ∨
        sameDownload imported.downloadId candidate.downloadId = false := by
  have hany : (grabbed.any fun grab => decide (imported.date < grab.date)) = true ↔
      ∃ grab, grabbed = some grab ∧ imported.date < grab.date := by
    simp only [Option.any_eq_true, decide_eq_true_eq]
  rw [← hany, importedVerdict]
  split
  next hregrabbed => exact iff_of_true rfl (Or.inl hregrabbed)
  next hregrabbed =>
    split
    next hsame =>
      refine iff_of_false (Decision.reject_ne_accepted _ _) ?_
      rw [hsame]
      exact not_or.mpr ⟨hregrabbed, Bool.noConfusion⟩
    next hother => exact iff_of_true rfl (Or.inr (Bool.eq_false_iff.mpr hother))

/-- A file passes for the imports of its media item unless the latest one was of the same download,
and no grab followed it. -/
theorem alreadyImported_accepts_iff (h : reader.AnswersFrom history) (enabled : Bool)
    (candidate : LocalCandidate) (context : Option SearchContext) (s : σ) :
    (alreadyImported reader enabled).verdict candidate context s = .accepted ↔
      (enabled = true → candidate.media.file.isSome = true →
        ∀ imported, history.latest? candidate.media.id .downloadFolderImported = some imported →
          (∃ grab, history.latest? candidate.media.id .grabbed = some grab ∧
            imported.date < grab.date) ∨
          sameDownload imported.downloadId candidate.downloadId = false) := by
  obtain ⟨t, himported⟩ := h.latestForMedia candidate.media.id .downloadFolderImported s
  obtain ⟨u, hgrabbed⟩ := h.latestForMedia candidate.media.id .grabbed t
  simp only [Rule.verdict, alreadyImported, himported]
  split
  next hskip =>
    refine iff_of_true rfl fun henabled hfile => ?_
    rw [henabled, ← Option.not_isSome, hfile] at hskip
    exact absurd hskip Bool.false_ne_true
  next hskip =>
    rw [← Option.not_isSome, ← Bool.not_and, Bool.not_eq_true', Bool.not_eq_false,
      Bool.and_eq_true] at hskip
    simp only [hskip.1, hskip.2, true_implies]
    cases history.latest? candidate.media.id .downloadFolderImported with
    | none => simp
    | some imported =>
      simp only [hgrabbed, Option.some.injEq, forall_eq']
      exact importedVerdict_eq_accepted_iff

/-- A file passes for its latest grab if that ranks as the file does. -/
theorem differentQuality_accepts_iff (h : reader.AnswersFrom history)
    (candidate : LocalCandidate) (context : Option SearchContext) (s : σ) :
    (differentQuality reader).verdict candidate context s = .accepted ↔
      ∀ downloadId, candidate.downloadId = some downloadId →
        ∀ record, (history.forDownload downloadId).find? (·.event == .grabbed) = some record →
          candidate.profile.cmp record.quality candidate.quality = .eq := by
  simp only [Rule.verdict, differentQuality]
  cases candidate.downloadId with
  | none => simp
  | some downloadId =>
    obtain ⟨t, hread⟩ := h.latestForDownload downloadId .grabbed s
    simp only [hread, Option.some.injEq, forall_eq']
    cases (history.forDownload downloadId).find? (·.event == .grabbed) with
    | none => simp
    | some record =>
      simp only [beq_iff_eq, Option.some.injEq, forall_eq']
      split
      next hequal => exact iff_of_true rfl hequal
      next hnot => exact iff_of_false (Decision.reject_ne_accepted _ _) hnot

theorem not_isMismatch_iff {record : HistoryRecord} : ¬ isMismatch candidate record = true ↔
    (record.event = .grabbed → record.quality.same candidate.quality = true ∨
      record.quality.quality.isUnknown = true) := by
  rw [isMismatch]
  by_cases hevent : record.event = .grabbed
  · cases record.quality.quality.isUnknown <;> simp [hevent]
  · simp [hevent]

/-- A file passes for the grabs of its download if each of them is of the quality model of the file
or of an unknown quality. -/
theorem grabbedReleaseQuality_accepts_iff (h : reader.AnswersFrom history)
    (candidate : LocalCandidate) (context : Option SearchContext) (s : σ) :
    (grabbedReleaseQuality reader).verdict candidate context s = .accepted ↔
      ∀ downloadId, candidate.downloadId = some downloadId →
        ∀ record ∈ history.records, record.concerns downloadId = true → record.event = .grabbed →
          record.quality.same candidate.quality = true ∨
            record.quality.quality.isUnknown = true := by
  simp only [Rule.verdict, grabbedReleaseQuality]
  cases candidate.downloadId with
  | none => simp
  | some downloadId =>
    obtain ⟨t, hread⟩ := h.forDownload downloadId s
    have hnone : (history.forDownload downloadId).find? (isMismatch candidate) = none ↔
        ∀ record ∈ history.records, record.concerns downloadId = true → record.event = .grabbed →
          record.quality.same candidate.quality = true ∨
            record.quality.quality.isUnknown = true := by
      simp only [List.find?_eq_none, History.mem_forDownload_iff, not_isMismatch_iff, and_imp]
    simp only [hread, Option.some.injEq, forall_eq', ← hnone]
    cases (history.forDownload downloadId).find? (isMismatch candidate) with
    | none => exact iff_of_true rfl rfl
    | some record => exact iff_of_false (Decision.reject_ne_accepted _ _) (Option.some_ne_none _)

/-! ### The checks together -/

/-- The names of the rules that compare a file with the one that the media item has, with what was
imported and with what was grabbed. -/
def isGrabCheck (rule : String) : Bool :=
  rule == "upgrade-vs-existing" || rule == "already-imported" || rule == "different-quality" ||
    rule == "grabbed-release-quality"

/-- These rules for an import. -/
def grabChecks (deps : ImportRules σ) : List (Rule σ LocalCandidate) :=
  deps.rules.filter fun rule => isGrabCheck rule.name

theorem grabChecks_eq (deps : ImportRules σ) : deps.grabChecks =
    [upgradeVsExisting, alreadyImported deps.history deps.settings.completedDownloadHandling,
      differentQuality deps.history, grabbedReleaseQuality deps.history] := rfl

/-- Checks that accept in every state accept where the engine explains itself. -/
theorem explain_of_grabChecks {deps : ImportRules σ} {file : LocalCandidate}
    {context : Option SearchContext} {s : σ}
    (h : ∀ rule ∈ deps.grabChecks, ∀ t, rule.verdict file context t = .accepted) :
    ∀ outcome ∈ (deps.engine.explain file context s).1, isGrabCheck outcome.rule = true →
      outcome.decision = .accepted := by
  intro outcome hmem hcheck
  obtain ⟨rule, hrule, t, rfl⟩ := Engine.exists_rule_of_mem_explainBy hmem
  exact h rule (List.mem_filter.mpr ⟨Engine.mem_ofRules_iff.mp hrule, hcheck⟩) t

/-- What is accepted for a grab ranks above the file of the media item, so that the file does not
rank above it. -/
theorem not_worse_of_accepted {ρ : Type} {deps : GrabRules ρ} {grabbed : GrabCandidate}
    {context : Option SearchContext} {s : ρ}
    (h : (deps.engine.decide grabbed context s).1 = .accepted) {quality : QualityModel}
    (hquality : quality.same grabbed.quality = true) {file : MediaFile}
    (hfile : grabbed.media.file = some file) :
    grabbed.profile.cmp file.quality quality ≠ .gt := by
  have hupgrade : UpgradePolicy.isUpgrade grabbed.profile file.quality grabbed.quality = true :=
    Profile.Supersedes.isUpgrade ⟨ρ, deps, grabbed, context, s, file, h, rfl, rfl, hfile, rfl⟩
  have habove : grabbed.profile.cmp quality file.quality = .gt :=
    (Std.TransCmp.congr_left (grabbed.profile.cmp_eq_eq_of_same hquality)).trans
      (Profile.isUpgrade_iff_cmp.mp hupgrade)
  have hbelow : grabbed.profile.cmp file.quality quality = .lt :=
    Std.OrientedCmp.eq_swap.trans (congrArg Ordering.swap habove)
  rw [hbelow]
  exact nofun

/-- The record that a grab writes says what was grabbed, under which number, and when. -/
theorem eq_grabRecord {τ : Type} {setup : Setup τ} {desk after : Desk τ} {now : Instant}
    {grabbed : GrabCandidate} {downloadId : String} {record : HistoryRecord}
    (hgrab : desk.grab setup now grabbed = (.ok downloadId, after))
    (hwritten : after.history = desk.history.append record) :
    record = Desk.grabRecord grabbed downloadId now := by
  rcases desk.grab_sends setup now grabbed with
    ⟨error, clients, hfailed, -⟩ | ⟨client, number, clients, htaken, -⟩
  · rw [hfailed] at hgrab
    exact absurd (Prod.mk.inj hgrab).1 nofun
  · rw [htaken] at hgrab
    obtain ⟨hnumber, rfl⟩ := Prod.mk.inj hgrab
    obtain rfl : number = downloadId := Except.ok.inj hnumber
    have hrecords := congrArg History.records hwritten
    exact (List.singleton_inj.mp (List.append_cancel_left hrecords)).symm

/-- **What is accepted for a grab is not refused for it when it is imported.**  Whatever rules for a
grab accepted the candidate, and however its download was then sent and recorded: as long as that
record settles the download in the log that the import reads, each of the four checks accepts the
file that comes from the download, by itself and where the engine explains itself. -/
theorem accepts_what_was_grabbed {ρ τ : Type} {deps : GrabRules ρ} {grabbed : GrabCandidate}
    {searched : Option SearchContext} {s : ρ}
    (haccepted : (deps.engine.decide grabbed searched s).1 = .accepted)
    {setup : Setup τ} {desk after : Desk τ} {now : Instant} {downloadId : String}
    (hgrab : desk.grab setup now grabbed = (.ok downloadId, after))
    {record : HistoryRecord} (hwritten : after.history = desk.history.append record)
    {history : History} (hsettles : history.Settles downloadId record)
    {imports : ImportRules σ} (hanswers : imports.history.AnswersFrom history)
    {file : LocalCandidate} (hfile : file.ComesFrom grabbed downloadId)
    (context : Option SearchContext) :
    (∀ rule ∈ imports.grabChecks, ∀ t, rule.verdict file context t = .accepted) ∧
      ∀ t, ∀ outcome ∈ (imports.engine.explain file context t).1,
        isGrabCheck outcome.rule = true → outcome.decision = .accepted := by
  obtain rfl := eq_grabRecord hgrab hwritten
  have hsame : grabbed.quality.same file.quality = true := QualityModel.same_symm hfile.quality
  suffices hchecks : ∀ rule ∈ imports.grabChecks, ∀ t, rule.verdict file context t = .accepted from
    ⟨hchecks, fun t => explain_of_grabChecks hchecks⟩
  rw [grabChecks_eq]
  simp only [List.forall_mem_cons, List.not_mem_nil, false_implies, implies_true, and_true]
  refine ⟨fun t => ?upgrade, fun t => ?imported, fun t => ?ranked, fun t => ?alike⟩
  case upgrade =>
    rw [upgradeVsExisting_accepts_iff, hfile.media, hfile.profile]
    exact fun existing hexisting => not_worse_of_accepted haccepted hfile.quality hexisting
  case imported =>
    -- the media item was grabbed since it was imported
    rw [alreadyImported_accepts_iff hanswers, hfile.media]
    intro _ _ imported himported
    obtain ⟨grab, hgrab, hafter⟩ := hsettles.exists_latest
    obtain ⟨hmem, hfor⟩ := (History.isLatest_of_latest? himported).mem
    exact Or.inl ⟨grab, hgrab, hafter imported hmem hfor⟩
  case ranked =>
    rw [differentQuality_accepts_iff hanswers, hfile.downloadId]
    rintro _ ⟨rfl⟩ newest hnewest
    obtain rfl := Option.some.inj (hsettles.newest.symm.trans hnewest)
    exact file.profile.cmp_eq_eq_of_same hsame
  case alike =>
    rw [grabbedReleaseQuality_accepts_iff hanswers, hfile.downloadId]
    rintro _ ⟨rfl⟩ other hmem hconcerns hevent
    exact (hsettles.alike other hmem hconcerns hevent).imp_left
      fun halike => QualityModel.same_trans halike hsame

/-! ### A download that is grabbed once more -/

open Desk GrabRules

/-- The fresh release for a media item with a file of a worse quality. -/
def regrabbed : GrabCandidate :=
  { freshCandidate with
    media := { freshCandidate.media with
      file := some { (default : MediaFile) with quality := .of .sdtv } } }

/-- A desk on which the media item was imported from the number that the client gives next. -/
def importedDesk : Desk (List MemoryClient) :=
  (blank [sab]).record (movieImportOf "sab-1" (-1))

/-- The rules for an import of the media item after the grab, from a disk on which nothing is. -/
def regrabbedRules : ImportRules Unit where
  disk :=
    { fileSize := fun _ => .answer 0, filesIn := fun _ => .answer []
      lastWrite := fun _ => .answer 0, caseInsensitive := false }
  samples := .trusting
  history := .ofHistory (importedDesk.grab sabSetup 0 regrabbed).2.history
  settings := {}
  now := 1

/-- The file of the release. -/
def regrabbedFile : LocalCandidate :=
  { (default : LocalCandidate) with
    quality := regrabbed.quality, downloadId := some "sab-1", media := regrabbed.media,
    profile := regrabbed.profile }

/-- What was imported before under the same number does not stand in the way of what is grabbed
under it once more, although it did before the grab. -/
theorem regrabbed_is_accepted :
    (alreadyImported (.ofHistory importedDesk.history) true).verdict regrabbedFile none () =
        imported ∧
      (∀ rule ∈ regrabbedRules.grabChecks, ∀ t,
        rule.verdict regrabbedFile none t = .accepted) ∧
      ∀ t, ∀ outcome ∈ (regrabbedRules.engine.explain regrabbedFile none t).1,
        isGrabCheck outcome.rule = true → outcome.decision = .accepted := by
  have haccepted : ((importedDesk.grabRules sabSetup 0).engine.decide regrabbed none ()).1 =
      .accepted := by decide +kernel
  have hgrab : (importedDesk.grab sabSetup 0 regrabbed).1 = .ok "sab-1" := rfl
  have hwritten : (importedDesk.grab sabSetup 0 regrabbed).2.history =
      importedDesk.history.append (grabRecord regrabbed "sab-1" 0) := rfl
  have hsettles : (importedDesk.grab sabSetup 0 regrabbed).2.history.Settles "sab-1"
      (grabRecord regrabbed "sab-1" 0) := by
    rw [hwritten]
    refine ⟨?_, by decide +kernel, by decide +kernel⟩
    rw [History.forDownload, History.newestFirst_append]
    · rfl
    · decide
    · decide +kernel
  refine ⟨by decide +kernel, ?_⟩
  exact accepts_what_was_grabbed haccepted (Prod.ext hgrab rfl) hwritten hsettles
    (HistoryReader.ofHistory_answersFrom _) ⟨rfl, rfl, by decide, rfl⟩ none

end ImportRules

end Acquisition
