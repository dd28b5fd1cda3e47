import Acquisition.Decision
import Acquisition.Grab.Candidate
import Acquisition.Queue.Tracked

/-!
# Pending releases

Releases that were rejected for now are set aside and evaluated again later.  Each release is set
aside once for a media item.
-/

namespace Acquisition

/-- A release that waits. -/
structure PendingRelease where
  id : QueueItemId
  candidate : GrabCandidate
  /-- Why it waits. -/
  rejection : Rejection
  /-- Since when it waits. -/
  added : Instant
  deriving DecidableEq, Repr, Inhabited

/-- The two candidates offer the same release for the same media item. -/
def GrabCandidate.sameRelease (a b : GrabCandidate) : Bool :=
  a.media.id == b.media.id && a.release.title == b.release.title &&
    a.release.indexer == b.release.indexer && a.release.published == b.release.published

/-- All pending releases. -/
structure PendingReleases where
  /-- The releases in the order in which they were set aside. -/
  releases : List PendingRelease
  /-- The serial number of the next release. -/
  nextSerial : Nat
  deriving Repr, Inhabited

namespace PendingReleases

/-- Nothing waits. -/
def empty : PendingReleases := ⟨[], 0⟩

/-- Replaces the rejection of the first release that is the candidate's, if there is one. -/
def renew? (candidate : GrabCandidate) (rejection : Rejection) :
    List PendingRelease → Option (List PendingRelease)
  | [] => none
  | first :: rest =>
    if first.candidate.sameRelease candidate then some ({ first with rejection } :: rest)
    else (renew? candidate rejection rest).map (first :: ·)

/-- Sets a release aside; one that waits already gets the new reason.  Says whether it is new. -/
def add (pending : PendingReleases) (candidate : GrabCandidate) (rejection : Rejection)
    (now : Instant) : Bool × PendingReleases :=
  match renew? candidate rejection pending.releases with
  | some releases => (false, { pending with releases })
  | none =>
    let release : PendingRelease :=
      { id := .pending pending.nextSerial, candidate, rejection, added := now }
    (true, ⟨pending.releases ++ [release], pending.nextSerial + 1⟩)

/-- The release with the identifier. -/
def find? (pending : PendingReleases) (id : QueueItemId) : Option PendingRelease :=
  pending.releases.find? (·.id == id)

/-- Takes out the release with the identifier and says which it was. -/
def remove (pending : PendingReleases) (id : QueueItemId) :
    Option PendingRelease × PendingReleases :=
  (pending.find? id, { pending with releases := pending.releases.filter (·.id != id) })

/-- Takes out the releases for a media item and says how many they were. -/
def removeForMedia (pending : PendingReleases) (mediaId : MediaId) : Nat × PendingReleases :=
  (pending.releases.countP (·.candidate.media.id == mediaId),
    { pending with releases := pending.releases.filter (·.candidate.media.id != mediaId) })

/-- Takes out the release of a candidate and says whether it was there. -/
def removeRelease (pending : PendingReleases) (candidate : GrabCandidate) :
    Bool × PendingReleases :=
  (pending.releases.any (·.candidate.sameRelease candidate),
    { pending with
      releases := pending.releases.filter (!·.candidate.sameRelease candidate) })

end PendingReleases

/-- When a release has waited as long as its delay profile says. -/
def PendingRelease.releaseTime (pending : PendingRelease) (store : ProfileStore) : Instant :=
  let release := pending.candidate.release
  let minutes := (store.delayFor pending.candidate.media.tags).delayFor release.protocol
  release.published + Span.ofMinutes minutes

end Acquisition
