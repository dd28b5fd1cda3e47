import Acquisition.Engine
import Acquisition.History
import Acquisition.Import.Candidate
import Acquisition.Import.Disk
import Acquisition.Settings.Basic

/-!
# Rules for an import

The rules that a file has to pass before it is moved into the library.  Files that lie in the
library already are exempt from the rules about downloads.

## Main definitions

* `ImportRules`: what the rules depend on.
* `ImportRules.engine`: the standard engine.
-/

namespace Acquisition

/-- What the rules for an import depend on, over collaborators with the state `σ`. -/
structure ImportRules (σ : Type) where
  disk : Disk σ
  samples : SampleDetector σ
  history : HistoryReader σ
  settings : DecisionSettings
  now : Instant

namespace ImportRules

variable {σ : Type}

/-! ### Rules that look at the file and the media item only -/

/-- A file of the size of the one that the media item has is taken for the same. -/
def sameFile : Rule σ LocalCandidate :=
  .pure "same-file" .basic fun candidate _ =>
    match candidate.media.file with
    | none => .accepted
    | some file =>
      if candidate.existing || file.size != candidate.size then .accepted
      else .reject .sameFile s!"Same file already present: {file.path.text}"

/-- A file that was looked into has to have sound. -/
def hasAudioTrack : Rule σ LocalCandidate :=
  .pure "has-audio-track" .basic fun candidate _ =>
    if candidate.mediaInfo.any (·.audioStreams == 0) then
      .reject .noAudio "No audio tracks detected"
    else .accepted

/-- The file must not be worse than the one that the media item has. -/
def upgradeVsExisting : Rule σ LocalCandidate :=
  .pure "upgrade-vs-existing" .basic fun candidate _ =>
    match candidate.media.file with
    | none => .accepted
    | some file =>
      if candidate.profile.cmp file.quality candidate.quality == .gt then
        .reject .notUpgrade s!"Not an upgrade for existing file: {file.quality.shown}"
      else .accepted

/-- A release that names its media has to name the one that the file is for. -/
def matchesGrab : Rule σ LocalCandidate :=
  .pure "matches-grab" .basic fun candidate _ =>
    match candidate.release with
    | none => .accepted
    | some release =>
      if candidate.existing || release.mediaIds.isEmpty ||
          release.mediaIds.contains candidate.media.id then .accepted
      else .reject .mediaNotFoundInRelease s!"Unexpected media in file: {candidate.media.title}"

/-- A file in a folder named for a disc is one of several. -/
def notMultiDisc : Rule σ LocalCandidate :=
  .pure "not-multi-disc" .basic fun candidate _ =>
    match candidate.path.parent?.bind Path.fileName? with
    | none => .accepted
    | some folder =>
      if Name.isDiscFolder folder then
        .reject .multiDisc s!"File is part of a multi-disc release ({folder})"
      else .accepted

/-! ### Rules that look at what happened before -/

/-- The two numbers are known and denote the same download. -/
def sameDownload : Option String → Option String → Bool
  | some a, some b => Text.equalIgnoringCase a b
  | _, _ => false

/-- What the latest import and the latest grab of the media item say about a file. -/
def importedVerdict (candidate : LocalCandidate) (imported : HistoryRecord)
    (grabbed : Option HistoryRecord) : Decision :=
  if grabbed.any fun grab => decide (imported.date < grab.date) then .accepted
  else if sameDownload imported.downloadId candidate.downloadId then
    .reject .alreadyImported "Already imported from this download"
  else .accepted

/-- The download of the latest import is not imported once more, unless the media item was
grabbed again since. -/
def alreadyImported (history : HistoryReader σ) (enabled : Bool) : Rule σ LocalCandidate where
  name := "already-imported"
  tier := .database
  evaluate candidate _ := fun s =>
    let mediaId := candidate.media.id
    if !enabled || candidate.media.file.isNone then (.accepted, s)
    else
      match history.latestForMedia mediaId .downloadFolderImported s with
      | (.error error, s) => (unavailable "already-imported" error, s)
      | (.ok none, s) => (.accepted, s)
      | (.ok (some imported), s) =>
        match history.latestForMedia mediaId .grabbed s with
        | (.error error, s) => (unavailable "already-imported" error, s)
        | (.ok grabbed, s) => (importedVerdict candidate imported grabbed, s)

/-- The file has to rank as its latest grab did. -/
def differentQuality (history : HistoryReader σ) : Rule σ LocalCandidate where
  name := "different-quality"
  tier := .database
  evaluate candidate _ := fun s =>
    match candidate.downloadId with
    | none => (.accepted, s)
    | some downloadId =>
      match history.latestForDownload downloadId .grabbed s with
      | (.error error, s) => (unavailable "different-quality" error, s)
      | (.ok none, s) => (.accepted, s)
      | (.ok (some record), s) =>
        if candidate.profile.cmp record.quality candidate.quality == .eq then (.accepted, s)
        else
          (.reject .qualityMismatch "Not an upgrade for existing file(s), quality mismatch", s)

/-- A grab of known quality that is not the quality of the file. -/
def isMismatch (candidate : LocalCandidate) (record : HistoryRecord) : Bool :=
  record.event == .grabbed && !record.quality.quality.isUnknown &&
    !record.quality.same candidate.quality

/-- The file has to be of the quality of every grab whose quality is known. -/
def grabbedReleaseQuality (history : HistoryReader σ) : Rule σ LocalCandidate where
  name := "grabbed-release-quality"
  tier := .database
  evaluate candidate _ := fun s =>
    match candidate.downloadId with
    | none => (.accepted, s)
    | some downloadId =>
      match history.forDownload downloadId s with
      | (.error error, s) => (unavailable "grabbed-release-quality" error, s)
      | (.ok records, s) =>
        match records.find? (isMismatch candidate) with
        | none => (.accepted, s)
        | some record =>
          (.reject .qualityMismatch
            (s!"File quality {candidate.quality.shown} does not match " ++
              s!"grabbed release quality {record.quality.shown}"), s)

/-! ### Rules that look at the disk -/

/-- The beginning of a working folder's name that the nearest working folder above a path has. -/
def workingFolder? (workingFolders : List String) (path : Path) : Option String :=
  (path.ancestors.filterMap Path.fileName?).findSome? fun name =>
    workingFolders.find? fun beginning => beginning.toList.isPrefixOf name.toList

/-- A file below a working folder of a download client is not complete, unless the disk does not
tell upper from lower case and the file was not written to for a while. -/
def notUnpacking (disk : Disk σ) (settings : DecisionSettings) (now : Instant) :
    Rule σ LocalCandidate where
  name := "not-unpacking"
  tier := .disk
  evaluate candidate _ := fun s =>
    match workingFolder? settings.workingFolders candidate.path with
    | none => (.accepted, s)
    | some folder =>
      let unpacking := .rejectForNow .unpacking s!"File is still being unpacked ({folder})"
      if candidate.existing then (.accepted, s)
      else if disk.caseInsensitive then
        match disk.lastWrite candidate.path s with
        | (.error error, s) => (unavailable "not-unpacking" error, s)
        | (.ok lastWrite, s) =>
          if Span.ofMinutes settings.unpackingGraceMinutes < now - lastWrite then (.accepted, s)
          else (unpacking, s)
      else (unpacking, s)

/-- What the answer of a sample detector says about a file. -/
def sampleVerdict : Except CollaboratorError SampleVerdict → Decision
  | .ok .notSample => .accepted
  | .ok .sample => .reject .sample "Sample"
  | .ok .indeterminate => .reject .sampleIndeterminate "Unable to determine if file is a sample"
  | .error error =>
    .reject .sampleIndeterminate s!"Unable to determine if file is a sample: {error.message}"

/-- A file must not be a sample. -/
def notSample (samples : SampleDetector σ) : Rule σ LocalCandidate where
  name := "not-sample"
  tier := .disk
  evaluate candidate _ := fun s =>
    if candidate.existing then (.accepted, s)
    else
      let (answer, s) := samples candidate.media candidate.path s
      (sampleVerdict answer, s)

/-- The name of a file without extension and part mark, if it has a part mark. -/
def partBase? (path : Path) : Option String :=
  path.fileStem?.bind Name.withoutPart?

/-- What the files beside a file with a part mark say about it: one other with the same name but
for the mark makes it one of several. -/
def partsVerdict (base : String) (siblings : List Path) : Decision :=
  let parts := siblings.countP fun sibling => partBase? sibling == some base
  if 1 < parts then .reject .multiPart s!"File is one of {parts} parts of a multi-part release"
  else .accepted

/-- A file with a part mark must not be one of several. -/
def notMultiPart (disk : Disk σ) : Rule σ LocalCandidate where
  name := "not-multi-part"
  tier := .disk
  evaluate candidate _ := fun s =>
    match partBase? candidate.path, candidate.path.parent? with
    | some base, some folder =>
      match disk.filesIn folder s with
      | (.error error, s) => (unavailable "not-multi-part" error, s)
      | (.ok siblings, s) => (partsVerdict base siblings, s)
    | _, _ => (.accepted, s)

/-! ### The standard engine -/

/-- All rules for an import. -/
def rules (deps : ImportRules σ) : List (Rule σ LocalCandidate) :=
  [sameFile,
    hasAudioTrack,
    upgradeVsExisting,
    matchesGrab,
    notMultiDisc,
    alreadyImported deps.history deps.settings.completedDownloadHandling,
    differentQuality deps.history,
    grabbedReleaseQuality deps.history,
    notUnpacking deps.disk deps.settings deps.now,
    notSample deps.samples,
    notMultiPart deps.disk]

/-- The standard engine for an import. -/
def engine (deps : ImportRules σ) : Engine σ LocalCandidate :=
  .ofRules deps.rules

end ImportRules

end Acquisition
