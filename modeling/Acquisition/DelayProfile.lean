import Acquisition.Error
import Acquisition.Release

/-!
# Delay profiles

A delay profile says how long a release has to be out before it is grabbed, by protocol, and
which protocol is preferred.  It applies to the media that carry one of its tags; one without
tags applies to all the rest.
-/

namespace Acquisition

/-- How long to wait for better releases. -/
structure DelayProfile where
  id : Nat
  /-- The lower order wins among profiles that match equally many tags. -/
  order : Nat
  preferred : Protocol
  usenetMinutes : Nat
  torrentMinutes : Nat
  tags : Tags
  deriving DecidableEq, Repr, Inhabited

namespace DelayProfile

/-- The order of the profile that applies to everything else. -/
def lastOrder : Nat := 4294967295

/-- The profile applies to media that no tag claims. -/
def isGlobal (profile : DelayProfile) : Bool :=
  profile.tags.isEmpty

/-- The minutes to wait for a release of the protocol. -/
def delayFor (profile : DelayProfile) : Protocol → Nat
  | .usenet => profile.usenetMinutes
  | .torrent => profile.torrentMinutes

/-- An untagged profile has to be ordered last. -/
def check (profile : DelayProfile) : Except ConfigError Unit :=
  if profile.isGlobal && profile.order != lastOrder then .error (.untaggedNotLast profile.id)
  else .ok ()

end DelayProfile

end Acquisition
