import Acquisition.Profile
import Acquisition.Settings.Basic

/-!
# Upgrades

When one quality model may take the place of another.  A revision upgrade is a redone release of
the same tier; it needs no better place in the profile and is not held back by the cutoff.
-/

namespace Acquisition

/-- The switch that upgrades depend on. -/
structure UpgradePolicy where
  /-- Redone releases of the same tier are wanted. -/
  propersAndRepacks : Bool
  deriving DecidableEq, Repr, Inhabited

namespace UpgradePolicy

/-- The policy that is configured. -/
def ofSettings (settings : DecisionSettings) : UpgradePolicy :=
  ⟨settings.propersAndRepacks⟩

/-- The candidate ranks strictly above what exists. -/
def isUpgrade (profile : Profile) (existing candidate : QualityModel) : Bool :=
  profile.cmp candidate existing == .gt

/-- The same tier in a higher revision. -/
def isRevisionUpgrade (existing candidate : QualityModel) : Bool :=
  existing.quality.same candidate.quality &&
    candidate.revision.cmp existing.revision == .gt

/-- The candidate may replace what exists: a revision upgrade if redone releases are wanted, a
better tier if the profile allows upgrades, and anything that is no better tier. -/
def isAllowed (policy : UpgradePolicy) (profile : Profile) (existing candidate : QualityModel) :
    Bool :=
  if isRevisionUpgrade existing candidate then policy.propersAndRepacks
  else
    !(profile.cmpQuality candidate.quality existing.quality == .gt) || profile.upgradeAllowed

/-- What exists is good enough, and the candidate is no revision upgrade of it. -/
def cutoffBlocks (profile : Profile) (existing candidate : QualityModel) : Bool :=
  profile.cutoffMet existing.quality && !isRevisionUpgrade existing candidate

end UpgradePolicy

end Acquisition
