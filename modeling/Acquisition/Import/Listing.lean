import Acquisition.Import.Service

/-!
# Disks given by a listing

A disk that is known by a list of its files, a probe that reads what is noted beside them, and an
organizer that notes down what it would move.
-/

namespace Acquisition

/-- A file with what a probe would find in it. -/
structure ListedFile where
  path : Path
  /-- The size in bytes. -/
  size : UInt64 := 0
  lastWrite : Instant := 0
  audioStreams : Option Nat := none
  runSeconds : Option Nat := none
  /-- Why a probe fails, if it does. -/
  probeFailure : Option String := none
  deriving DecidableEq, Repr, Inhabited

/-- A list of files. -/
structure DiskListing where
  files : List ListedFile := []
  /-- The folders that cannot be listed. -/
  closed : List Path := []
  caseInsensitive : Bool := false
  deriving DecidableEq, Repr, Inhabited

namespace DiskListing

/-- The first file at a path. -/
def find? (listing : DiskListing) (path : Path) : Option ListedFile :=
  listing.files.find? (·.path.same path)

/-- The first file at a path, or the error that there is none. -/
def find (listing : DiskListing) (path : Path) : Except CollaboratorError ListedFile :=
  match listing.find? path with
  | some file => .ok file
  | none => .error (.io path "no such file")

/-- The disk with the files. -/
def disk {σ : Type} (listing : DiskListing) : Disk σ where
  fileSize path := .fixed ((listing.find path).map (·.size))
  filesIn folder :=
    if listing.closed.any (·.same folder) then .fixed (.error (.io folder "cannot list"))
    else
      .answer
        ((listing.files.filter fun file => file.path.parent?.any (·.same folder)).map (·.path))
  lastWrite path := .fixed ((listing.find path).map (·.lastWrite))
  caseInsensitive := listing.caseInsensitive

/-- What is noted about a file: a sound track if only a running time is noted. -/
def infoOf (file : ListedFile) : Option MediaInfo :=
  if file.audioStreams.isNone && file.runSeconds.isNone then none
  else some ⟨file.audioStreams.getD 1, none, none, file.runSeconds⟩

/-- The probe that reads the notes. -/
def probe {σ : Type} (listing : DiskListing) : MediaProbe σ := fun path =>
  match listing.find? path with
  | none => .answer none
  | some file =>
    match file.probeFailure with
    | some reason => .fixed (.error (.probe path reason))
    | none => .answer (infoOf file)

end DiskListing

/-- The organizer that numbers its calls, fails at some paths, and puts everything else into the
folder of the media item. -/
def Organizer.numbering (failing : List Path) (group : Option String) : Organizer Nat :=
  fun candidate calls =>
    let number := calls + 1
    if failing.any (·.same candidate.path) then
      (.error (.io candidate.path "read-only library"), number)
    else
      (.ok
        { id := number
          mediaId := candidate.media.id
          path := candidate.media.path.join (candidate.path.fileName?.getD "")
          size := candidate.size
          quality := candidate.quality
          languages := candidate.languages
          group
          added := 0 }, number)

end Acquisition
