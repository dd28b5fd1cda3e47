import Acquisition.Events
import Acquisition.Import.Rules
import Acquisition.ProfileStore

/-!
# Importing

The paths of a request are evaluated one by one.  The best file that passes is handed to an
organizer, which moves it into the library; if that fails, the next best one is tried.

## Main definitions

* `ImportSetup`, `ImportDesk`: what does not change and what does; all collaborators share the
  state `ω`.
* `ImportDesk.evaluate`: what the rules say about paths.
* `ImportDesk.importFiles`: imports one file of several; `ImportReport` tells what came of it.
-/

namespace Acquisition

/-! ### Setup and records -/

/-- Moves an approved file into the library; it may fail. -/
abbrev Organizer (ω : Type) := LocalCandidate → Reading ω MediaFile

/-- What imports are set up with. -/
structure ImportSetup (ω : Type) where
  store : ProfileStore
  settings : DecisionSettings
  disk : Disk ω
  probe : MediaProbe ω
  samples : SampleDetector ω
  /-- What the rules read of the log. -/
  history : History → HistoryReader ω
  organizer : Organizer ω

/-- The records that imports work on. -/
structure ImportDesk (ω : Type) where
  history : History
  events : EventLog
  /-- The state of the collaborators. -/
  world : ω

/-- What to import and where it came from. -/
structure ImportRequest where
  media : Media
  downloadId : Option String
  release : Option Release
  deriving DecidableEq, Repr, Inhabited

/-- A file and what was decided about it. -/
structure ImportDecision where
  candidate : LocalCandidate
  decision : Decision
  deriving DecidableEq, Repr, Inhabited

/-- A file that the organizer could not move. -/
structure ImportFailure where
  path : Path
  cause : CollaboratorError
  deriving DecidableEq, Repr, Inhabited

/-- The report of the failure. -/
def ImportFailure.message (failure : ImportFailure) : String :=
  s!"organizer failed for {failure.path.text}: {failure.cause.message}"

/-- What came of an import. -/
structure ImportReport where
  imported : List MediaFile := []
  rejected : List ImportDecision := []
  /-- The files that passed but were not needed. -/
  skipped : List Path := []
  failed : List ImportFailure := []
  deriving DecidableEq, Repr, Inhabited

/-! ### Paths of a request -/

/-- The paths without those that equal the one before them. -/
def dropRepeats : List Path → List Path
  | [] => []
  | path :: paths =>
    match dropRepeats paths with
    | [] => [path]
    | next :: rest => if path.same next then path :: rest else path :: next :: rest

/-- The paths in order, each once.  Requests take hold of their paths in this order. -/
def orderedPaths (paths : List Path) : List Path :=
  dropRepeats (paths.mergeSort fun a b => a.cmp b != .gt)

namespace ImportDesk

variable {ω : Type}

/-! ### Evaluating -/

/-- A file before anything is known about it but its path. -/
def unread (request : ImportRequest) (profile : Profile) (path : Path) : LocalCandidate where
  path
  size := 0
  quality := .unknown
  languages := []
  mediaInfo := none
  existing := path.isWithin request.media.path
  parsed := none
  release := request.release
  downloadId := request.downloadId
  media := request.media
  profile

/-- The rules for an import as things stand. -/
def importRules (setup : ImportSetup ω) (now : Instant) (history : History) :
    ImportRules ω where
  disk := setup.disk
  samples := setup.samples
  history := setup.history history
  settings := setup.settings
  now

/-- Reads the name of a file, its size and what is inside, and asks the rules.  A probe that
fails finds nothing. -/
def decide (setup : ImportSetup ω) (now : Instant) (request : ImportRequest) (profile : Profile)
    (history : History) (path : Path) : StateM ω ImportDecision := fun s =>
  let candidate := unread request profile path
  match ParsedRelease.ofPath? path with
  | none => (⟨candidate, .reject .unparseable s!"Unable to parse file: {path.text}"⟩, s)
  | some parsed =>
    let candidate :=
      { candidate with
        quality := parsed.quality
        languages := parsed.languages
        parsed := some parsed }
    match setup.disk.fileSize path s with
    | (.error error, s) => (⟨candidate, unavailable "file-size" error⟩, s)
    | (.ok size, s) =>
      let (found, s) := setup.probe path s
      let candidate := { candidate with size, mediaInfo := found.toOption.join }
      let (decision, s) := (importRules setup now history).engine.decide candidate none s
      (⟨candidate, decision⟩, s)

/-- What the rules say about paths, one after the other. -/
def decideAll (setup : ImportSetup ω) (now : Instant) (request : ImportRequest)
    (profile : Profile) (history : History) : List Path → StateM ω (List ImportDecision)
  | [] => fun s => ([], s)
  | path :: paths => fun s =>
    let (decision, s) := decide setup now request profile history path s
    let (decisions, s) := decideAll setup now request profile history paths s
    (decision :: decisions, s)

/-- What the rules say about paths, in the order given. -/
def evaluate (setup : ImportSetup ω) (now : Instant) (request : ImportRequest)
    (paths : List Path) (desk : ImportDesk ω) :
    Except ConfigError (List ImportDecision) × ImportDesk ω :=
  match setup.store.profile request.media.profileId with
  | .error error => (.error error, desk)
  | .ok profile =>
    let (decisions, world) := decideAll setup now request profile desk.history paths desk.world
    (.ok decisions, { desk with world })

/-! ### Importing -/

/-- The record of an import. -/
def importRecord (candidate : LocalCandidate) (now : Instant) : HistoryRecord where
  mediaId := candidate.media.id
  event := .downloadFolderImported
  downloadId := candidate.downloadId
  quality := candidate.quality
  languages := candidate.languages
  sourceTitle := candidate.sourceTitle
  indexer := candidate.release.map (·.indexer)
  protocol := candidate.release.map (·.protocol)
  date := now
  message := none

/-- The event of an import. -/
def importEvent (candidate : LocalCandidate) (file : MediaFile) : MediaFileImported where
  mediaId := candidate.media.id
  fileId := file.id
  path := file.path.text
  group := file.group
  downloadId := candidate.downloadId

/-- Hands a file to the organizer, writes it into the history and announces it.  A file without
a group gets the one of the candidate. -/
def importOne (setup : ImportSetup ω) (now : Instant) (candidate : LocalCandidate)
    (desk : ImportDesk ω) : Except ImportFailure MediaFile × ImportDesk ω :=
  match setup.organizer candidate desk.world with
  | (.error cause, world) => (.error ⟨candidate.path, cause⟩, { desk with world })
  | (.ok file, world) =>
    let file := { file with group := file.group <|> candidate.group }
    (.ok file,
      { history := desk.history.append (importRecord candidate now)
        events := desk.events.publish (importEvent candidate file) now
        world })

/-- Imports the first candidate that the organizer can move; the ones behind it are skipped. -/
def importFirst (setup : ImportSetup ω) (now : Instant) :
    List LocalCandidate → ImportReport → ImportDesk ω → ImportReport × ImportDesk ω
  | [], report, desk => (report, desk)
  | candidate :: candidates, report, desk =>
    match desk.importOne setup now candidate with
    | (.ok file, desk) =>
      ({ report with imported := [file], skipped := candidates.map (·.path) }, desk)
    | (.error failure, desk) =>
      importFirst setup now candidates { report with failed := report.failed ++ [failure] } desk

/-- Imports the best approved file among the paths.  Of two equally good ones the first path is
tried first. -/
def importFiles (setup : ImportSetup ω) (now : Instant) (request : ImportRequest)
    (paths : List Path) (desk : ImportDesk ω) : Except ConfigError ImportReport × ImportDesk ω :=
  match desk.evaluate setup now request (orderedPaths paths) with
  | (.error error, desk) => (.error error, desk)
  | (.ok decisions, desk) =>
    let (approved, rejected) := decisions.partition (·.decision.isAccepted)
    let ranked := (approved.map (·.candidate)).mergeSort fun a b => b.cmp a != .gt
    let (report, desk) := desk.importFirst setup now ranked { rejected }
    (.ok report, desk)

end ImportDesk

end Acquisition
