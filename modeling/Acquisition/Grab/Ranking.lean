import Acquisition.Decision
import Acquisition.Grab.Candidate

/-!
# Ranking of releases

Which of two accepted releases of a media item is grabbed first.  Every attribute but the
quality is taken coarsely, so that the next attribute decides between releases that hardly
differ.

Sizes are rounded in arithmetic of 64 bits, which is checked: a sum that is too large breaks the
program off.  Comparisons and orders come in two forms.  `cmp?` and `prioritize?` are what the
program does, and nothing where it breaks off; `cmp` and `prioritize` go by the exact sizes and are
the answer wherever there is one.

## Main definitions

* `GrabCandidate.cmp?`, `GrabCandidate.cmp`: the order of two candidates; the greater one is
  preferred.
* `prioritize?`, `prioritize`: decisions in the order in which they are acted on.
-/

namespace Acquisition

/-- A candidate and what was decided about it. -/
structure GrabDecision where
  candidate : GrabCandidate
  decision : Decision
  deriving DecidableEq, Repr, Inhabited

/-! ### Coarse attributes -/

/-- The least `k` from `digits` on, at most `fuel` more, for which `n` is below
`10 ^ (k + 1 / 2)`. -/
def logTenFrom (n : Nat) : Nat → Nat → Nat
  | digits, 0 => digits
  | digits, fuel + 1 =>
    if n * n < 10 ^ (2 * digits + 1) then digits else logTenFrom n (digits + 1) fuel

/-- The decimal logarithm of a count, rounded to the nearest integer; zero where there is
none.  No square of an integer lies on a half. -/
def roundedLogTen (count : Option Nat) : Nat :=
  match count with
  | some n => logTenFrom n 0 n
  | none => 0

/-- A usenet release is worth more in its first hour, day and week. -/
def usenetAgeScore (age : Span) : Nat :=
  if age < Span.ofHours 1 then 1000
  else if age ≤ Span.ofHours 24 then 100
  else if age ≤ Span.ofDays 7 then 10
  else 1

/-- The bytes in one step of the size. -/
def sizeStep : UInt64 := 200 * 1024 * 1024

/-- The size and half a step, which is what gets divided in rounding. -/
def roundingSum (size : UInt64) : Nat :=
  size.toNat + (sizeStep / 2).toNat

/-- The size in steps, rounded to the nearest. -/
def sizeBucket (size : UInt64) : Nat :=
  roundingSum size / sizeStep.toNat

/-- The size in steps, unless the sum that is divided has more than 64 bits. -/
def sizeBucket? (size : UInt64) : Option Nat :=
  if roundingSum size < UInt64.size then some (sizeBucket size) else none

/-! ### The order of candidates -/

namespace GrabCandidate

/-- One for the preferred protocol and zero for the other. -/
def protocolScore (preferred : Protocol) (candidate : GrabCandidate) : Nat :=
  if candidate.release.protocol == preferred then 1 else 0

/-- The order by what the protocol tells about how well a release can be fetched. -/
def cmpAvailability (now : Instant) (left right : Release) : Ordering :=
  match left.protocol, right.protocol with
  | .torrent, .torrent =>
    (compare (roundedLogTen left.seeders) (roundedLogTen right.seeders)).then
      (compare (roundedLogTen left.peers) (roundedLogTen right.peers))
  | .usenet, .usenet => compare (usenetAgeScore (left.age now)) (usenetAgeScore (right.age now))
  | _, _ => .eq

/-- The order by all that is compared before the size: quality model, protocol, availability. -/
def cmpUpToSize (store : ProfileStore) (now : Instant) (left right : GrabCandidate) : Ordering :=
  let preferred := (store.delayFor left.media.tags).preferred
  (left.profile.cmp left.quality right.quality).then <|
    (compare (left.protocolScore preferred) (right.protocolScore preferred)).then <|
      cmpAvailability now left.release right.release

/-- The order of candidates: quality model, protocol, availability, size. -/
def cmp (store : ProfileStore) (now : Instant) (left right : GrabCandidate) : Ordering :=
  (cmpUpToSize store now left right).then <|
    compare (sizeBucket left.release.size) (sizeBucket right.release.size)

/-- The order of candidates as the program works it out.  Sizes are rounded only for candidates that
are equal in all that comes before, and one that cannot be rounded breaks the program off. -/
def cmp? (store : ProfileStore) (now : Instant) (left right : GrabCandidate) : Option Ordering :=
  match cmpUpToSize store now left right with
  | .eq => do return compare (← sizeBucket? left.release.size) (← sizeBucket? right.release.size)
  | order => some order

end GrabCandidate

/-! ### The order of decisions -/

/-- The media of the decisions, in the order in which they first occur. -/
def mediaOrder (decisions : List GrabDecision) : List MediaId :=
  (decisions.map (·.candidate.media.id)).eraseDups

/-- The accepted decisions, best first and grouped by media item, then the rejected ones as they
came. -/
def prioritize (store : ProfileStore) (now : Instant) (decisions : List GrabDecision) :
    List GrabDecision :=
  let (accepted, rejected) := decisions.partition (·.decision.isAccepted)
  let ranked := (mediaOrder accepted).flatMap fun mediaId =>
    (accepted.filter (·.candidate.media.id == mediaId)).mergeSort fun a b =>
      GrabCandidate.cmp store now b.candidate a.candidate != .gt
  ranked ++ rejected

/-- Accepted decisions about one media item can be compared, whichever way round. -/
def isComparable (store : ProfileStore) (now : Instant) (a b : GrabDecision) : Bool :=
  a.candidate.media.id != b.candidate.media.id ||
    ((GrabCandidate.cmp? store now a.candidate b.candidate).isSome &&
      (GrabCandidate.cmp? store now b.candidate a.candidate).isSome)

/-- The decisions in the order in which they are acted on, unless the program breaks off.  It does
if any two that have to be compared cannot be: however the accepted decisions for a media item are
sorted, those that are equal in all but their sizes can be told apart by their sizes only. -/
def prioritize? (store : ProfileStore) (now : Instant) (decisions : List GrabDecision) :
    Option (List GrabDecision) :=
  if (decisions.filter (·.decision.isAccepted)).Pairwise fun a b => isComparable store now a b
  then some (prioritize store now decisions)
  else none

end Acquisition
