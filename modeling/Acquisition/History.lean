import Acquisition.Collaborator
import Acquisition.Release
import Acquisition.Text.AsciiCase

/-!
# History

The history is a log of what happened to downloads and files.  Records are appended and never
changed, and every question about them is answered newest first: the later date, and of equal
dates the later append.

## Main definitions

* `HistoryRecord`, `History`: the log.
* `History.newestFirst`, `History.forMedia`, `History.forDownload`: questions.
* `HistoryReader`: the questions as a collaborator asks them, which may go unanswered.
-/

namespace Acquisition

/-! ### Records -/

/-- What happened. -/
inductive HistoryEvent
  /-- A release was sent to a download client. -/
  | grabbed
  /-- A file of a download was imported. -/
  | downloadFolderImported
  | downloadFailed
  | downloadIgnored
  | fileDeleted
  deriving DecidableEq, Repr, Inhabited

namespace HistoryEvent

/-- All kinds of events. -/
def all : List HistoryEvent :=
  [grabbed, downloadFolderImported, downloadFailed, downloadIgnored, fileDeleted]

/-- The word for a kind of event. -/
def name : HistoryEvent → String
  | grabbed => "grabbed"
  | downloadFolderImported => "download_folder_imported"
  | downloadFailed => "download_failed"
  | downloadIgnored => "download_ignored"
  | fileDeleted => "file_deleted"

/-- The kind of event that a word stands for. -/
def ofName? (name : String) : Option HistoryEvent :=
  all.find? (·.name == name)

end HistoryEvent

/-- An entry of the log. -/
structure HistoryRecord where
  mediaId : MediaId
  event : HistoryEvent
  downloadId : Option String
  quality : QualityModel
  languages : List Language
  sourceTitle : String
  indexer : Option String
  protocol : Option Protocol
  date : Instant
  message : Option String
  deriving DecidableEq, Repr, Inhabited

/-- The record belongs to the download, up to the case of ASCII letters. -/
def HistoryRecord.concerns (record : HistoryRecord) (downloadId : String) : Bool :=
  record.downloadId.any (Text.equalIgnoringCase · downloadId)

/-! ### The log -/

/-- The log, in the order in which it was written. -/
structure History where
  records : List HistoryRecord
  deriving Repr, Inhabited

namespace History

/-- The log before anything happened. -/
def empty : History := ⟨[]⟩

/-- The log with one record more. -/
def append (history : History) (record : HistoryRecord) : History :=
  ⟨history.records ++ [record]⟩

/-- The records that `keep` accepts, newest first. -/
def newestFirst (history : History) (keep : HistoryRecord → Bool) : List HistoryRecord :=
  (history.records.filter keep).reverse.mergeSort fun a b => decide (b.date ≤ a.date)

/-- The records of a media item, newest first. -/
def forMedia (history : History) (mediaId : MediaId) : List HistoryRecord :=
  history.newestFirst fun record => record.mediaId == mediaId

/-- The records of a download, newest first. -/
def forDownload (history : History) (downloadId : String) : List HistoryRecord :=
  history.newestFirst (·.concerns downloadId)

end History

/-! ### Reading through a collaborator -/

/-- The questions that can be asked about the history.  Asking may change the state of the
collaborator, and it may fail. -/
structure HistoryReader (σ : Type) where
  forMedia : MediaId → Reading σ (List HistoryRecord)
  forDownload : String → Reading σ (List HistoryRecord)

namespace HistoryReader

variable {σ : Type}

/-- The latest record of a media item of one kind. -/
def latestForMedia (reader : HistoryReader σ) (mediaId : MediaId) (event : HistoryEvent) :
    Reading σ (Option HistoryRecord) :=
  (reader.forMedia mediaId).map fun records => records.find? (·.event == event)

/-- The latest record of a download of one kind. -/
def latestForDownload (reader : HistoryReader σ) (downloadId : String) (event : HistoryEvent) :
    Reading σ (Option HistoryRecord) :=
  (reader.forDownload downloadId).map fun records => records.find? (·.event == event)

/-- Answers from a log at all times. -/
def ofHistory (history : History) : HistoryReader σ where
  forMedia mediaId := .answer (history.forMedia mediaId)
  forDownload downloadId := .answer (history.forDownload downloadId)

/-- Answers from a log as often as the state says, then fails for the given reason. -/
def failing (history : History) (reason : String) : HistoryReader Nat where
  forMedia mediaId := .limited (.history reason) (history.forMedia mediaId)
  forDownload downloadId := .limited (.history reason) (history.forDownload downloadId)

end HistoryReader

end Acquisition
