import Acquisition.Media

/-!
# Releases

A release is an offer of an indexer: a file that can be fetched over one of two protocols.
-/

namespace Acquisition

/-- How a release is fetched. -/
inductive Protocol
  | usenet
  | torrent
  deriving DecidableEq, Repr, Inhabited

/-- The word for a protocol. -/
def Protocol.name : Protocol → String
  | usenet => "usenet"
  | torrent => "torrent"

/-- The protocol that a word stands for. -/
def Protocol.ofName? : String → Option Protocol
  | "usenet" => some usenet
  | "torrent" => some torrent
  | _ => none

/-- Where the releases under evaluation came from. -/
inductive SearchContext
  /-- The periodic reading of a feed. -/
  | rss
  /-- A search that the system started. -/
  | automatic
  /-- A search that a user asked for. -/
  | userInvoked
  deriving DecidableEq, Repr, Inhabited

/-- A release as an indexer reports it. -/
structure Release where
  guid : String
  title : String
  indexer : String
  indexerTags : Tags
  published : Instant
  protocol : Protocol
  /-- The size in bytes. -/
  size : UInt64
  downloadUrl : String
  infoHash : Option String
  seeders : Option Nat
  peers : Option Nat
  /-- The media that the indexer names for the release, when it names any. -/
  mediaIds : List MediaId
  deriving DecidableEq, Repr, Inhabited

/-- How long ago a release was published. -/
def Release.age (release : Release) (now : Instant) : Span :=
  now - release.published

end Acquisition
