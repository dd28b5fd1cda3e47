import Acquisition.Grab.Service
import Acquisition.Proofs.Decision

/-!
# What comes of each decision

Acting on decisions is a run: each step settles one decision, and what it does to the report and
to the desk depends on how the decision is settled.  A trail is a run with the fate of every
decision written down.

## Main definitions

* `Fate`: what came of a decision.
* `ClientRegistry.Serves`: the first client for a protocol.
* `Sends`, `Acts`: what a client, and what the desk, does about one.
* `Trail`: what the desk does about one after the other.
* `Replay`: what a trail asks of the clients.

## Main results

* `Desk.act_acts`: acting on a decision is a step.
* `Desk.exists_trail`: acting on decisions leaves a trail.
-/

namespace Acquisition

/-- What came of a decision. -/
inductive Fate
  /-- A client took the release. -/
  | grabbed (client downloadId : String)
  /-- The release could not be sent. -/
  | failed (error : GrabError)
  /-- A release was grabbed for the media item already. -/
  | passed
  /-- The release was set aside. -/
  | held
  /-- The release was rejected for good. -/
  | rejected
  deriving DecidableEq, Repr

namespace Fate

/-- The release was to be sent to a client. -/
def isAttempt : Fate → Bool
  | grabbed _ _ | failed _ => true
  | _ => false

/-- The release was to be sent and could not be. -/
def isFailed : Fate → Bool
  | failed _ => true
  | _ => false

end Fate

/-- A release that a client took. -/
structure Grab where
  candidate : GrabCandidate
  client : String
  downloadId : String

/-- The grab that a settled decision stands for. -/
def grab? : GrabDecision × Fate → Option Grab
  | (decision, .grabbed client downloadId) => some ⟨decision.candidate, client, downloadId⟩
  | _ => none

/-- The grabs among settled decisions, in order. -/
def grabs (trail : List (GrabDecision × Fate)) : List Grab :=
  trail.filterMap grab?

variable {σ : Type}

/-! ### Steps -/

/-- The client is the first one for the protocol. -/
def ClientRegistry.Serves (registry : ClientRegistry σ) (protocol : Protocol)
    (client : DownloadClient σ) : Prop :=
  client.protocol = protocol ∧ ∃ front back, registry = front ++ client :: back ∧
    ∀ other ∈ front, other.protocol ≠ protocol

/-- Sending a release to the first client for its protocol. -/
inductive Sends (registry : ClientRegistry σ) (release : Release) (s : σ) : Fate → σ → Prop
  | noClient (h : ∀ client ∈ registry, client.protocol ≠ release.protocol) :
    Sends registry release s (.failed (.noClient release.protocol)) s
  | refused {client : DownloadClient σ} {error : ClientError} {t : σ}
      (hclient : registry.Serves release.protocol client)
      (hadd : client.add release s = (.error error, t)) :
    Sends registry release s (.failed (.client error)) t
  | taken {client : DownloadClient σ} {downloadId : String} {t : σ}
      (hclient : registry.Serves release.protocol client)
      (hadd : client.add release s = (.ok downloadId, t)) :
    Sends registry release s (.grabbed client.name downloadId) t

namespace ClientRegistry

variable {registry : ClientRegistry σ} {protocol : Protocol}

theorem forProtocol?_eq_some_iff {client : DownloadClient σ} :
    registry.forProtocol? protocol = some client ↔ registry.Serves protocol client := by
  rw [forProtocol?, List.find?_eq_some_iff_append, beq_iff_eq, Serves]
  simp only [Bool.not_eq_true', beq_eq_false_iff_ne]

theorem forProtocol?_eq_none_iff :
    registry.forProtocol? protocol = none ↔ ∀ client ∈ registry, client.protocol ≠ protocol := by
  rw [forProtocol?, List.find?_eq_none]
  simp only [beq_iff_eq, ne_eq]

end ClientRegistry

namespace Grab

/-- What the history says about the grab: which release was grabbed when, for which media item, and
as which download. -/
def record (grab : Grab) (now : Instant) : HistoryRecord where
  mediaId := grab.candidate.media.id
  event := .grabbed
  downloadId := some grab.downloadId
  quality := grab.candidate.parsed.quality
  languages := grab.candidate.parsed.languages
  sourceTitle := grab.candidate.release.title
  indexer := some grab.candidate.release.indexer
  protocol := some grab.candidate.release.protocol
  date := now
  message := none

/-- What is announced of the grab: what was grabbed for which media item, from where, and as which
download of which client. -/
def event (grab : Grab) (now : Instant) : Event Json where
  topic := .releaseGrabbed
  occurredAt := now
  payload := .obj [
    ("media_id", .str (Text.Uuid.write grab.candidate.media.id)),
    ("release_title", .str grab.candidate.release.title),
    ("indexer", .str grab.candidate.release.indexer),
    ("download_client", .str grab.client),
    ("download_id", .str grab.downloadId),
    ("quality", .obj [
      ("quality", .nat grab.candidate.parsed.quality.quality.id),
      ("revision", .obj [
        ("version", .nat grab.candidate.parsed.quality.revision.version),
        ("real", .nat grab.candidate.parsed.quality.revision.real)])])]

/-- What the report says about the grab. -/
def line (grab : Grab) : MediaId × String :=
  (grab.candidate.media.id, grab.downloadId)

/-- The desk after the grab. -/
def settle (grab : Grab) (now : Instant) (clients : σ) (desk : Desk σ) : Desk σ :=
  { desk with
    clients
    history := desk.history.append (grab.record now)
    pending := (desk.pending.removeForMedia grab.candidate.media.id).2
    events := desk.events ++ [grab.event now] }

end Grab

/-- Settling one decision. -/
inductive Acts (setup : Setup σ) (now : Instant) (decision : GrabDecision) (report : GrabReport)
    (desk : Desk σ) : Fate → GrabReport → Desk σ → Prop
  | grabbed {client downloadId : String} {clients : σ}
      (haccepted : decision.decision.isAccepted = true)
      (hopen : report.covers decision.candidate.media.id = false)
      (hsends : Sends setup.registry decision.candidate.release desk.clients
        (.grabbed client downloadId) clients) :
    Acts setup now decision report desk (.grabbed client downloadId)
      { report with
        grabbed := report.grabbed ++ [Grab.line ⟨decision.candidate, client, downloadId⟩] }
      (Grab.settle ⟨decision.candidate, client, downloadId⟩ now clients desk)
  | failed {error : GrabError} {clients : σ}
      (haccepted : decision.decision.isAccepted = true)
      (hopen : report.covers decision.candidate.media.id = false)
      (hsends : Sends setup.registry decision.candidate.release desk.clients (.failed error)
        clients) :
    Acts setup now decision report desk (.failed error)
      { report with failed := report.failed + 1 } { desk with clients }
  | passed (hlasting : decision.decision.isFinal = false)
      (hcovers : report.covers decision.candidate.media.id = true) :
    Acts setup now decision report desk .passed report desk
  | held {rejection : Rejection} (hdecision : decision.decision = .rejected rejection)
      (htemporary : decision.decision.isTemporary = true)
      (hopen : report.covers decision.candidate.media.id = false) :
    Acts setup now decision report desk .held { report with pending := report.pending + 1 }
      { desk with pending := (desk.pending.add decision.candidate rejection now).2 }
  | rejected (hfinal : decision.decision.isFinal = true) :
    Acts setup now decision report desk .rejected { report with rejected := report.rejected + 1 }
      desk

namespace Desk

/-- A grab either fails and changes nothing but the clients, or is recorded and announced. -/
theorem grab_sends (setup : Setup σ) (now : Instant) (candidate : GrabCandidate) (desk : Desk σ) :
    (∃ error clients, desk.grab setup now candidate = (.error error, { desk with clients }) ∧
        Sends setup.registry candidate.release desk.clients (.failed error) clients) ∨
      ∃ client downloadId clients,
        desk.grab setup now candidate =
          (.ok downloadId, Grab.settle ⟨candidate, client, downloadId⟩ now clients desk) ∧
        Sends setup.registry candidate.release desk.clients (.grabbed client downloadId)
          clients := by
  cases hclient : setup.registry.forProtocol? candidate.release.protocol with
  | none =>
    have hnone := ClientRegistry.forProtocol?_eq_none_iff.mp hclient
    exact Or.inl ⟨_, desk.clients, by rw [grab, hclient], .noClient hnone⟩
  | some client =>
    have hserves := ClientRegistry.forProtocol?_eq_some_iff.mp hclient
    rcases hadd : client.add candidate.release desk.clients with ⟨error | downloadId, clients⟩
    · exact Or.inl ⟨_, clients, by simp only [grab, hclient, hadd], .refused hserves hadd⟩
    · exact Or.inr ⟨_, downloadId, clients, by simp only [grab, hclient, hadd]; rfl,
        .taken hserves hadd⟩

/-- **Acting on a decision is a step.** -/
theorem act_acts (setup : Setup σ) (now : Instant) (decision : GrabDecision)
    (report : GrabReport) (desk : Desk σ) :
    ∃ fate, Acts setup now decision report desk fate (desk.act setup now decision report).1
      (desk.act setup now decision report).2 := by
  rw [act]
  -- accepted, rejected for good, rejected for now
  rcases hdecision : decision.decision with _ | ⟨kind, message, _ | _⟩
  · cases hcovers : report.covers decision.candidate.media.id with
    | true => exact ⟨.passed, .passed (by rw [hdecision]; rfl) hcovers⟩
    | false =>
      have haccepted : decision.decision.isAccepted = true := by rw [hdecision]; rfl
      rcases grab_sends setup now decision.candidate desk with
        ⟨error, clients, hgrab, hsends⟩ | ⟨client, downloadId, clients, hgrab, hsends⟩
      · simp only [Bool.false_eq_true, if_false, hgrab]
        exact ⟨.failed error, .failed haccepted hcovers hsends⟩
      · simp only [Bool.false_eq_true, if_false, hgrab]
        exact ⟨.grabbed client downloadId, .grabbed haccepted hcovers hsends⟩
  · exact ⟨.rejected, .rejected (by rw [hdecision]; rfl)⟩
  · cases hcovers : report.covers decision.candidate.media.id with
    | true => exact ⟨.passed, .passed (by rw [hdecision]; rfl) hcovers⟩
    | false => exact ⟨.held, .held hdecision (by rw [hdecision]; rfl) hcovers⟩

end Desk

/-! ### Runs -/

/-- Settling decisions one after the other. -/
inductive Trail (setup : Setup σ) (now : Instant) :
    GrabReport → Desk σ → List (GrabDecision × Fate) → GrabReport → Desk σ → Prop
  | nil (report : GrabReport) (desk : Desk σ) : Trail setup now report desk [] report desk
  | cons {decision : GrabDecision} {fate : Fate} {trail : List (GrabDecision × Fate)}
      {report report' report'' : GrabReport} {desk desk' desk'' : Desk σ}
      (step : Acts setup now decision report desk fate report' desk')
      (rest : Trail setup now report' desk' trail report'' desk'') :
    Trail setup now report desk ((decision, fate) :: trail) report'' desk''

/-- **Acting on decisions leaves a trail.** -/
theorem Desk.exists_trail (setup : Setup σ) (now : Instant) :
    ∀ (decisions : List GrabDecision) (report : GrabReport) (desk : Desk σ),
      ∃ trail, trail.map (·.1) = decisions ∧
        Trail setup now report desk trail (desk.actAll setup now decisions report).1
          (desk.actAll setup now decisions report).2 := by
  intro decisions
  induction decisions with
  | nil => exact fun report desk => ⟨[], rfl, .nil report desk⟩
  | cons decision decisions ih =>
    intro report desk
    obtain ⟨fate, hstep⟩ := desk.act_acts setup now decision report
    obtain ⟨trail, rfl, hrest⟩ := ih (desk.act setup now decision report).1
      (desk.act setup now decision report).2
    exact ⟨(decision, fate) :: trail, rfl, .cons hstep hrest⟩

/-- A trail can be cut where the decisions can. -/
theorem Trail.of_append {setup : Setup σ} {now : Instant} :
    ∀ {front back : List (GrabDecision × Fate)} {report report' : GrabReport}
      {desk desk' : Desk σ}, Trail setup now report desk (front ++ back) report' desk' →
      ∃ middle desk₁, Trail setup now report desk front middle desk₁ ∧
        Trail setup now middle desk₁ back report' desk' := by
  intro front
  induction front with
  | nil => exact fun h => ⟨_, _, .nil _ _, h⟩
  | cons first front ih =>
    intro back report report' desk desk' h
    cases h with
    | cons step rest =>
      obtain ⟨middle, desk₁, hfront, hback⟩ := ih rest
      exact ⟨middle, desk₁, .cons step hfront, hback⟩

/-- The clients are asked to take what was grabbed or failed, in order, with that outcome, and for
nothing else. -/
inductive Replay (registry : ClientRegistry σ) : σ → List (GrabDecision × Fate) → σ → Prop
  | nil (s : σ) : Replay registry s [] s
  | sent {decision : GrabDecision} {fate : Fate} {trail : List (GrabDecision × Fate)} {s t u : σ}
      (hsends : Sends registry decision.candidate.release s fate t)
      (rest : Replay registry t trail u) : Replay registry s ((decision, fate) :: trail) u
  | unsent {decision : GrabDecision} {fate : Fate} {trail : List (GrabDecision × Fate)} {s u : σ}
      (hfate : fate.isAttempt = false) (rest : Replay registry s trail u) :
    Replay registry s ((decision, fate) :: trail) u

end Acquisition
