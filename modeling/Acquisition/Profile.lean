import Acquisition.Error
import Acquisition.Media
import Acquisition.Text.Blank

/-!
# Quality profiles

A profile lists qualities from worst to best and says which of them it wants.  It is the only
thing that makes one quality better than another.

## Main definitions

* `Profile.ofItems`: a profile, unless its order makes no sense.
* `Profile.rank`: the place of a quality; a quality that is not wanted ranks below all others.
* `Profile.cmp`: the order of quality models under a profile.
-/

namespace Acquisition

/-- A quality in a profile. -/
structure ProfileItem where
  quality : Quality
  /-- The profile wants the quality. -/
  allowed : Bool
  deriving DecidableEq, Repr, Inhabited

/-- Preferences among qualities, worst first. -/
structure Profile where
  id : ProfileId
  name : String
  items : List ProfileItem
  /-- The quality from which on a file is good enough. -/
  cutoff : Quality
  /-- Files may be replaced by better ones. -/
  upgradeAllowed : Bool
  deriving DecidableEq, Repr, Inhabited

namespace Profile

/-! ### Validity -/

/-- The qualities that repeat one listed before them, given the numbers of those before. -/
def repeatsAfter (seen : List Nat) : List ProfileItem → List Quality
  | [] => []
  | item :: items =>
    if seen.contains item.quality.id then item.quality :: repeatsAfter seen items
    else repeatsAfter (item.quality.id :: seen) items

/-- The item makes the profile want the quality. -/
def wants (item : ProfileItem) (quality : Quality) : Bool :=
  item.allowed && item.quality.same quality

/-- What is wrong with a profile, in the order of the report. -/
def faults (profile : Profile) : List ProfileFault :=
  (if Text.isBlankText profile.name then [.blankName] else []) ++
  (if profile.items.any (·.allowed) then [] else [.nothingAllowed]) ++
  (repeatsAfter [] profile.items).map .listedTwice ++
  (if profile.items.any (wants · profile.cutoff) then [] else [.cutoffNotAllowed profile.cutoff])

/-- The profile with upgrades allowed, or the error that lists what is wrong with it. -/
def ofItems (id : ProfileId) (name : String) (items : List ProfileItem) (cutoff : Quality) :
    Except ConfigError Profile :=
  let profile : Profile := { id, name, items, cutoff, upgradeAllowed := true }
  match profile.faults with
  | [] => .ok profile
  | faults => .error (.invalidProfile name faults)

/-! ### Ranking -/

/-- The place of a quality among the items, if the profile wants it. -/
def indexOf? (profile : Profile) (quality : Quality) : Option Nat :=
  profile.items.findIdx? (wants · quality)

/-- Zero for a quality that is not wanted, and one more than its place for one that is. -/
def rank (profile : Profile) (quality : Quality) : Nat :=
  match profile.indexOf? quality with
  | some i => i + 1
  | none => 0

/-- The profile wants the quality. -/
def isAllowed (profile : Profile) (quality : Quality) : Bool :=
  0 < profile.rank quality

/-- The best quality that the profile wants. -/
def lastAllowed? (profile : Profile) : Option Quality :=
  (profile.items.reverse.find? (·.allowed)).map (·.quality)

/-- The quality is good enough. -/
def cutoffMet (profile : Profile) (quality : Quality) : Bool :=
  profile.rank profile.cutoff ≤ profile.rank quality

/-- The order of qualities under a profile. -/
def cmpQuality (profile : Profile) (a b : Quality) : Ordering :=
  compare (profile.rank a) (profile.rank b)

/-- The order of quality models under a profile: the quality decides, then the revision. -/
def cmp (profile : Profile) (a b : QualityModel) : Ordering :=
  (profile.cmpQuality a.quality b.quality).then (a.revision.cmp b.revision)

end Profile

end Acquisition
