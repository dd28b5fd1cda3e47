import Acquisition.Collaborator
import Acquisition.Media
import Acquisition.Name.Part
import Acquisition.Text.AsciiCase

/-!
# The disk, media probes and samples

What an import sees of the files: their names, sizes and times, what a probe finds inside them,
and whether they are mere samples of a work.  All of this is asked of collaborators with the state
`σ`.

## Main definitions

* `Disk`: a view of the file system.
* `MediaProbe`, `SampleDetector`: what is asked about a single file.
* `SampleDetector.byRuntime`: tells a sample by its name and its running time.
-/

namespace Acquisition

/-- A view of the file system; every question may go unanswered. -/
structure Disk (σ : Type) where
  /-- The size of a file in bytes. -/
  fileSize : Path → Reading σ UInt64
  /-- The regular files directly inside a folder. -/
  filesIn : Path → Reading σ (List Path)
  /-- When a file was last written. -/
  lastWrite : Path → Reading σ Instant
  /-- Names that differ in case only denote the same file. -/
  caseInsensitive : Bool

/-- Looks into a media file; it may find nothing, and it may fail. -/
abbrev MediaProbe (σ : Type) := Path → Reading σ (Option MediaInfo)

/-- What a file is taken for. -/
inductive SampleVerdict
  | notSample
  | sample
  | indeterminate
  deriving DecidableEq, Repr, Inhabited

/-- Tells whether a file of a media item is a sample. -/
abbrev SampleDetector (σ : Type) := Media → Path → Reading σ SampleVerdict

namespace SampleDetector

variable {σ : Type}

/-- Takes every file for the whole work. -/
def trusting : SampleDetector σ := fun _ _ => .answer .notSample

/-- Extensions of disc images and of stubs that lead to a stream: their running time is not
known. -/
def timelessExtensions : List String := ["iso", "img", "strm", "flv"]

/-- What a running time says about a file. -/
def verdictOfRuntime (minimum : Nat) : Option Nat → SampleVerdict
  | none | some 0 => .indeterminate
  | some seconds => if seconds < minimum then .sample else .notSample

/-- Takes a file for a sample if its name says so or if it runs for less than the minimum of
seconds. -/
def byRuntime (probe : MediaProbe σ) (minimum : Nat) : SampleDetector σ := fun _ path =>
  if (path.extension?.map Text.asciiLower).any (timelessExtensions.contains ·) then
    .answer .notSample
  else if Name.namesSample (path.fileName?.getD "") then .answer .sample
  else (probe path).map fun info => verdictOfRuntime minimum (info.bind (·.runSeconds))

end SampleDetector

end Acquisition
