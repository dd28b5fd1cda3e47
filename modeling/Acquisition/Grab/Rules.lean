import Acquisition.Blocklist
import Acquisition.Engine
import Acquisition.Grab.Candidate
import Acquisition.History
import Acquisition.Upgrade

/-!
# Rules for a grab

The rules that a release has to pass before it is sent to a download client.

## Main definitions

* `QueuedRelease`: what the queue already holds for a media item.
* `GrabRules`: what the rules depend on.
* `GrabRules.engine`: the standard engine.
-/

namespace Acquisition

/-- A download of a media item that is under way. -/
structure QueuedRelease where
  title : String
  quality : QualityModel
  failed : Bool
  deriving DecidableEq, Repr, Inhabited

/-- What the rules for a grab depend on, over collaborators with the state `σ`. -/
structure GrabRules (σ : Type) where
  store : ProfileStore
  history : HistoryReader σ
  blocklist : Blocklist
  /-- What the queue holds for a media item. -/
  queued : MediaId → List QueuedRelease
  settings : DecisionSettings
  now : Instant

namespace GrabRules

variable {σ : Type}

/-! ### Rules that look at the release and the media item only -/

/-- An indexer with tags serves only media that share one, or that have none. -/
def tagRestriction : Rule σ GrabCandidate :=
  .pure "tag-restriction" .basic fun candidate _ =>
    let indexerTags := candidate.release.indexerTags
    let mediaTags := candidate.media.tags
    if indexerTags.isEmpty || mediaTags.isEmpty then .accepted
    else if Tags.disjoint indexerTags mediaTags then
      .reject .tagMismatch
        s!"Media tags do not match any tags on indexer {candidate.release.indexer}"
    else .accepted

/-- The profile has to want the quality. -/
def qualityAllowed : Rule σ GrabCandidate :=
  .pure "quality-allowed-by-profile" .basic fun candidate _ =>
    let quality := candidate.quality.quality
    if candidate.profile.isAllowed quality then .accepted
    else
      .reject .qualityNotWanted
        s!"{quality.name} is not wanted in profile {candidate.profile.name}"

/-- A release on usenet has to have been out for a while. -/
def minimumAge (minutes : Nat) (now : Instant) : Rule σ GrabCandidate :=
  .pure "minimum-age" .basic fun candidate _ =>
    let age := candidate.release.age now
    if candidate.release.protocol != .usenet || minutes == 0 then .accepted
    else if age < Span.ofMinutes minutes then
      .rejectForNow .minimumAge
        s!"Only {age.wholeMinutes} minutes old, minimum age is {minutes} minutes"
    else .accepted

/-- The release has to be better than the file that the media item has. -/
def upgradeDisk : Rule σ GrabCandidate :=
  .pure "upgrade-disk" .basic fun candidate _ =>
    match candidate.media.file with
    | none => .accepted
    | some file =>
      if UpgradePolicy.isUpgrade candidate.profile file.quality candidate.quality then .accepted
      else
        .reject .notUpgrade
          s!"Existing file on disk is of equal or higher quality: {file.quality.shown}"

/-- A group that has a name. -/
def namedGroup? (group : Option String) : Option String :=
  group.filter fun name => !Text.isBlankText name

/-- A redone release may replace only a file of the same group. -/
def repack (policy : UpgradePolicy) : Rule σ GrabCandidate :=
  .pure "repack" .basic fun candidate _ =>
    match candidate.media.file with
    | none => .accepted
    | some file =>
      if !candidate.quality.revision.isProper then .accepted
      else if !file.quality.quality.same candidate.quality.quality then .accepted
      else if !policy.propersAndRepacks then
        .reject .upgradeNotAllowed "Proper and repack downloads are disabled"
      else
        match namedGroup? file.group, namedGroup? candidate.parsed.group with
        | none, _ =>
          .reject .releaseGroupMismatch "Unable to determine release group for the existing file"
        | some _, none =>
          .reject .releaseGroupMismatch "Unable to determine release group for this release"
        | some fileGroup, some releaseGroup =>
          if Text.equalIgnoringCase fileGroup releaseGroup then .accepted
          else
            .reject .releaseGroupMismatch
              ("Release is a repack for a different release group. " ++
                s!"Release group: {releaseGroup}. File release group: {fileGroup}")

/-- The policy and the profile have to allow the replacement of the file. -/
def upgradeAllowed (policy : UpgradePolicy) : Rule σ GrabCandidate :=
  .pure "upgrade-allowed" .basic fun candidate _ =>
    match candidate.media.file with
    | none => .accepted
    | some file =>
      if policy.isAllowed candidate.profile file.quality candidate.quality then .accepted
      else .reject .upgradeNotAllowed "Profile does not allow upgrades"

/-- A file that is good enough is not replaced. -/
def cutoff : Rule σ GrabCandidate :=
  .pure "cutoff" .basic fun candidate _ =>
    match candidate.media.file with
    | none => .accepted
    | some file =>
      if UpgradePolicy.cutoffBlocks candidate.profile file.quality candidate.quality then
        .reject .cutoffMet s!"Existing file meets cutoff: {candidate.profile.cutoff.name}"
      else .accepted

/-! ### Rules that look at what happened before -/

/-- A blocked release is never grabbed. -/
def blocklisted (blocklist : Blocklist) : Rule σ GrabCandidate :=
  .pure "blocklist" .database fun candidate _ =>
    if blocklist.blocks candidate.media.id candidate.release then
      .reject .blocklisted "Release is blocklisted"
    else .accepted

/-- A release that was grabbed before has to be of the quality that it was grabbed with. -/
def grabbedBefore (history : HistoryReader σ) : Rule σ GrabCandidate where
  name := "already-grabbed-different-quality"
  tier := .database
  evaluate candidate _ := fun s =>
    match candidate.knownId? with
    | none => (.accepted, s)
    | some downloadId =>
      match history.latestForDownload downloadId .grabbed s with
      | (.error error, s) => (unavailable "already-grabbed-different-quality" error, s)
      | (.ok none, s) => (.accepted, s)
      | (.ok (some record), s) =>
        if candidate.profile.cmp record.quality candidate.quality == .eq then (.accepted, s)
        else
          (.reject .qualityMismatch
            ("Quality mismatch with prior grab: " ++
              s!"grabbed {record.quality.shown}, release is {candidate.quality.shown}"), s)

/-- The objection of one queued release to a candidate. -/
def queueObjection? (policy : UpgradePolicy) (profile : Profile) (candidate : QualityModel)
    (queued : QueuedRelease) : Option Decision :=
  if queued.failed then none
  else if UpgradePolicy.cutoffBlocks profile queued.quality candidate then
    some (.reject .alreadyQueued
      s!"Release in queue already meets cutoff: {queued.quality.shown}")
  else if !UpgradePolicy.isUpgrade profile queued.quality candidate then
    some (.reject .alreadyQueued
      s!"Release in queue is of equal or higher preference: {queued.quality.shown}")
  else if !policy.isAllowed profile queued.quality candidate then
    some (.reject .upgradeNotAllowed
      s!"Another release is queued and upgrades are not allowed: {queued.title}")
  else none

/-- The release has to be better than everything that is queued for the media item. -/
def queue (policy : UpgradePolicy) (queued : MediaId → List QueuedRelease) :
    Rule σ GrabCandidate :=
  .pure "queue" .database fun candidate _ =>
    ((queued candidate.media.id).findSome?
      (queueObjection? policy candidate.profile candidate.quality)).getD .accepted

/-- A release waits for better ones as long as the delay profile says.  Nothing waits when a
user searched, when the quality is the best that is wanted, or when it is a redone release of
the file. -/
def delay (policy : UpgradePolicy) (store : ProfileStore) (now : Instant) :
    Rule σ GrabCandidate :=
  .pure "delay" .database fun candidate context =>
    let minutes := (store.delayFor candidate.media.tags).delayFor candidate.release.protocol
    let age := candidate.release.age now
    let redone := candidate.media.file.any fun file =>
      UpgradePolicy.isRevisionUpgrade file.quality candidate.quality &&
        policy.isAllowed candidate.profile file.quality candidate.quality
    if context == some .userInvoked || minutes == 0 then .accepted
    else if candidate.profile.lastAllowed?.any (·.same candidate.quality.quality) then .accepted
    else if redone then .accepted
    else if Span.ofMinutes minutes ≤ age then .accepted
    else
      .rejectForNow .delayWindow
        ("Release is still within the configured delay window " ++
          s!"({max age.wholeMinutes 0} of {minutes} minutes)")

/-! ### The standard engine -/

/-- All rules for a grab. -/
def rules (deps : GrabRules σ) : List (Rule σ GrabCandidate) :=
  let policy := UpgradePolicy.ofSettings deps.settings
  [tagRestriction,
    qualityAllowed,
    minimumAge deps.settings.minimumAgeMinutes deps.now,
    upgradeDisk,
    repack policy,
    upgradeAllowed policy,
    cutoff,
    blocklisted deps.blocklist,
    grabbedBefore deps.history,
    queue policy deps.queued,
    delay policy deps.store deps.now]

/-- The standard engine for a grab. -/
def engine (deps : GrabRules σ) : Engine σ GrabCandidate :=
  .ofRules deps.rules

end GrabRules

end Acquisition
