import Acquisition.Desk
import Acquisition.Grab.Ranking

/-!
# Grabbing

Releases are evaluated, ranked, and the best accepted one of each media item is sent to a
download client.  What was rejected for now is set aside, unless something was grabbed for its
media item.

## Main definitions

* `Desk.evaluate`: what the rules say about candidates.
* `Desk.grab`: sends one release to a client.
* `Desk.processDecisions`: acts on decisions; `GrabReport` tells what came of it.
* `Desk.processPending`: evaluates the pending releases again and acts on that.
-/

namespace Acquisition

/-- Why a release was not sent to a client. -/
inductive GrabError
  | noClient (protocol : Protocol)
  | client (error : ClientError)
  deriving DecidableEq, Repr, Inhabited

/-- The report of the error. -/
def GrabError.message : GrabError → String
  | noClient protocol => s!"no download client is configured for {protocol.name}"
  | client error => error.message

/-- What came of acting on decisions. -/
structure GrabReport where
  /-- The media item and the number of the download, for every release that was sent. -/
  grabbed : List (MediaId × String) := []
  pending : Nat := 0
  rejected : Nat := 0
  failed : Nat := 0
  deriving DecidableEq, Repr, Inhabited

/-- Something was grabbed for the media item. -/
def GrabReport.covers (report : GrabReport) (mediaId : MediaId) : Bool :=
  report.grabbed.any (·.1 == mediaId)

namespace Desk

variable {σ : Type}

/-! ### Evaluating -/

/-- The rules for a grab as things stand. -/
def grabRules (setup : Setup σ) (now : Instant) (desk : Desk σ) : GrabRules Unit where
  store := setup.store
  history := .ofHistory desk.history
  blocklist := desk.blocklist
  queued := desk.tracked.queuedFor
  settings := setup.settings
  now

/-- What the rules say about candidates, in the order given. -/
def evaluate (setup : Setup σ) (now : Instant) (desk : Desk σ) (candidates : List GrabCandidate)
    (context : Option SearchContext) : List GrabDecision :=
  let engine := (desk.grabRules setup now).engine
  candidates.map fun candidate => ⟨candidate, (engine.decide candidate context ()).1⟩

/-! ### Grabbing one release -/

/-- The record of a grab. -/
def grabRecord (candidate : GrabCandidate) (downloadId : String) (now : Instant) :
    HistoryRecord where
  mediaId := candidate.media.id
  event := .grabbed
  downloadId := some downloadId
  quality := candidate.quality
  languages := candidate.parsed.languages
  sourceTitle := candidate.release.title
  indexer := some candidate.release.indexer
  protocol := some candidate.release.protocol
  date := now
  message := none

/-- The event of a grab. -/
def grabEvent (candidate : GrabCandidate) (client downloadId : String) : ReleaseGrabbed where
  mediaId := candidate.media.id
  releaseTitle := candidate.release.title
  indexer := candidate.release.indexer
  client
  downloadId
  quality := candidate.quality

/-- Sends a release to the client for its protocol, writes it into the history, drops what is
pending for its media item and announces it. -/
def grab (setup : Setup σ) (now : Instant) (candidate : GrabCandidate) (desk : Desk σ) :
    Except GrabError String × Desk σ :=
  match setup.registry.forProtocol? candidate.release.protocol with
  | none => (.error (.noClient candidate.release.protocol), desk)
  | some client =>
    match client.add candidate.release desk.clients with
    | (.error error, clients) => (.error (.client error), { desk with clients })
    | (.ok downloadId, clients) =>
      let desk := { desk with clients }.record (grabRecord candidate downloadId now)
      let desk := { desk with pending := (desk.pending.removeForMedia candidate.media.id).2 }
      (.ok downloadId, desk.publish (grabEvent candidate client.name downloadId) now)

/-! ### Acting on decisions -/

/-- Acts on one decision. -/
def act (setup : Setup σ) (now : Instant) (decision : GrabDecision) (report : GrabReport)
    (desk : Desk σ) : GrabReport × Desk σ :=
  let candidate := decision.candidate
  let mediaId := candidate.media.id
  match decision.decision with
  | .accepted =>
    if report.covers mediaId then (report, desk)
    else
      match desk.grab setup now candidate with
      | (.ok downloadId, desk) =>
        ({ report with grabbed := report.grabbed ++ [(mediaId, downloadId)] }, desk)
      | (.error _, desk) => ({ report with failed := report.failed + 1 }, desk)
  | .rejected rejection =>
    match rejection.type with
    | .permanent => ({ report with rejected := report.rejected + 1 }, desk)
    | .temporary =>
      if report.covers mediaId then (report, desk)
      else
        let pending := (desk.pending.add candidate rejection now).2
        ({ report with pending := report.pending + 1 }, { desk with pending })

/-- Acts on decisions one after the other. -/
def actAll (setup : Setup σ) (now : Instant) :
    List GrabDecision → GrabReport → Desk σ → GrabReport × Desk σ
  | [], report, desk => (report, desk)
  | decision :: decisions, report, desk =>
    let (report, desk) := desk.act setup now decision report
    actAll setup now decisions report desk

/-- Acts on decisions in the order of their priority.  Where the program cannot tell that order
(`prioritize?`) it breaks off before it acts on any of them, and this does not follow it further:
what is said here about such decisions is what would come of them in the order by exact sizes. -/
def processDecisions (setup : Setup σ) (now : Instant) (decisions : List GrabDecision)
    (desk : Desk σ) : GrabReport × Desk σ :=
  desk.actAll setup now (prioritize setup.store now decisions) {}

/-- Evaluates candidates and acts on the outcome. -/
def evaluateAndGrab (setup : Setup σ) (now : Instant) (candidates : List GrabCandidate)
    (context : Option SearchContext) (desk : Desk σ) : GrabReport × Desk σ :=
  desk.processDecisions setup now (desk.evaluate setup now candidates context)

/-- Takes the releases that are rejected for good out of the pending ones. -/
def dropRejected (decisions : List GrabDecision) (pending : PendingReleases) : PendingReleases :=
  decisions.foldl (fun pending decision =>
    if decision.decision.isAccepted || decision.decision.isTemporary then pending
    else (pending.removeRelease decision.candidate).2) pending

/-- Evaluates the pending releases as a feed would, and acts on the outcome.  They stay pending
until they are grabbed or rejected for good. -/
def processPending (setup : Setup σ) (now : Instant) (desk : Desk σ) : GrabReport × Desk σ :=
  if desk.pending.releases.isEmpty then ({}, desk)
  else
    let candidates := desk.pending.releases.map (·.candidate)
    let decisions := desk.evaluate setup now candidates (some .rss)
    { desk with pending := dropRejected decisions desk.pending }.processDecisions
      setup now decisions

end Desk

end Acquisition
