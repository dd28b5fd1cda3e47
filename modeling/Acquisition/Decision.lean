/-!
# Decisions

A decision about a release or a file: it is accepted, or rejected for a reason.  A temporary
rejection may pass on a later evaluation without anything but the time having changed.
-/

namespace Acquisition

/-- The kinds of reasons for a rejection. -/
inductive RejectionKind
  | tagMismatch
  | qualityMismatch
  | qualityNotWanted
  | delayWindow
  | minimumAge
  | notUpgrade
  | cutoffMet
  | upgradeNotAllowed
  | alreadyQueued
  | releaseGroupMismatch
  | blocklisted
  | alreadyImported
  | mediaNotFoundInRelease
  | multiDisc
  | multiPart
  | sample
  | sampleIndeterminate
  | unpacking
  | sameFile
  | noAudio
  | unparseable
  | collaboratorUnavailable
  deriving DecidableEq, Repr, Inhabited

namespace RejectionKind

/-- All kinds. -/
def all : List RejectionKind :=
  [tagMismatch, qualityMismatch, qualityNotWanted, delayWindow, minimumAge, notUpgrade, cutoffMet,
    upgradeNotAllowed, alreadyQueued, releaseGroupMismatch, blocklisted, alreadyImported,
    mediaNotFoundInRelease, multiDisc, multiPart, sample, sampleIndeterminate, unpacking, sameFile,
    noAudio, unparseable, collaboratorUnavailable]

/-- The word for a kind. -/
def name : RejectionKind → String
  | tagMismatch => "tag_mismatch"
  | qualityMismatch => "quality_mismatch"
  | qualityNotWanted => "quality_not_wanted"
  | delayWindow => "delay_window"
  | minimumAge => "minimum_age"
  | notUpgrade => "not_upgrade"
  | cutoffMet => "cutoff_met"
  | upgradeNotAllowed => "upgrade_not_allowed"
  | alreadyQueued => "already_queued"
  | releaseGroupMismatch => "release_group_mismatch"
  | blocklisted => "blocklisted"
  | alreadyImported => "already_imported"
  | mediaNotFoundInRelease => "media_not_found_in_release"
  | multiDisc => "multi_disc"
  | multiPart => "multi_part"
  | sample => "sample"
  | sampleIndeterminate => "sample_indeterminate"
  | unpacking => "unpacking"
  | sameFile => "same_file"
  | noAudio => "no_audio"
  | unparseable => "unparseable"
  | collaboratorUnavailable => "collaborator_unavailable"

/-- The kind that a word stands for. -/
def ofName? (name : String) : Option RejectionKind :=
  all.find? (·.name == name)

end RejectionKind

/-- Whether a rejection may pass with time. -/
inductive RejectionType
  | permanent
  | temporary
  deriving DecidableEq, Repr, Inhabited

/-- The word for a type of rejection. -/
def RejectionType.name : RejectionType → String
  | permanent => "permanent"
  | temporary => "temporary"

/-- The type of rejection that a word stands for. -/
def RejectionType.ofName? : String → Option RejectionType
  | "permanent" => some permanent
  | "temporary" => some temporary
  | _ => none

/-- A reason for a rejection. -/
structure Rejection where
  kind : RejectionKind
  message : String
  type : RejectionType
  deriving DecidableEq, Repr, Inhabited

/-- The outcome of an evaluation. -/
inductive Decision
  | accepted
  | rejected (rejection : Rejection)
  deriving DecidableEq, Repr, Inhabited

namespace Decision

/-- Rejects for good. -/
def reject (kind : RejectionKind) (message : String) : Decision :=
  .rejected ⟨kind, message, .permanent⟩

/-- Rejects for now. -/
def rejectForNow (kind : RejectionKind) (message : String) : Decision :=
  .rejected ⟨kind, message, .temporary⟩

/-- Nothing speaks against the candidate. -/
def isAccepted : Decision → Bool
  | accepted => true
  | rejected _ => false

/-- Rejected for now. -/
def isTemporary : Decision → Bool
  | rejected ⟨_, _, .temporary⟩ => true
  | _ => false

end Decision

end Acquisition
