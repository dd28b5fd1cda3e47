import Acquisition.Media

/-!
# Configuration errors

What makes a configuration unusable.  Such an error is raised before any release or file is
looked at.
-/

namespace Acquisition

/-- What is wrong with a quality profile. -/
inductive ProfileFault
  | blankName
  | nothingAllowed
  | listedTwice (quality : Quality)
  | cutoffNotAllowed (cutoff : Quality)
  deriving DecidableEq, Repr, Inhabited

/-- The field that the fault is about and what is wrong with it. -/
def ProfileFault.message : ProfileFault → String
  | blankName => "name: name cannot be empty"
  | nothingAllowed => "items: at least one quality must be allowed"
  | listedTwice quality => s!"items: quality {quality.name} is listed more than once"
  | cutoffNotAllowed cutoff => s!"cutoff: cutoff {cutoff.name} must be an allowed quality"

/-- Why a configuration cannot be used. -/
inductive ConfigError
  | invalidProfile (name : String) (faults : List ProfileFault)
  | noProfiles
  /-- A delay profile without tags that is not ordered last. -/
  | untaggedNotLast (id : Nat)
  /-- A delay profile that prefers a protocol nobody knows. -/
  | unknownProtocol (id : Nat) (protocol : String)
  | unknownQuality (name : String)
  | unknownProfile (id : ProfileId)
  | missingGlobalDelayProfile
  deriving DecidableEq, Repr, Inhabited

/-- The report of the error. -/
def ConfigError.message : ConfigError → String
  | invalidProfile name faults =>
    let reasons := String.intercalate "; " (faults.map ProfileFault.message)
    s!"profile '{name}' is invalid: {reasons}"
  | noProfiles =>
    "profile store 'profiles' is invalid: at least one quality profile is required"
  | untaggedNotLast id =>
    s!"delay profile '{id}' is invalid: order: the untagged profile must be ordered last"
  | unknownProtocol id protocol =>
    s!"delay profile '{id}' is invalid: unknown protocol '{protocol}'"
  | unknownQuality name => s!"unknown quality '{name}'"
  | unknownProfile id => s!"no profile with id {id}"
  | missingGlobalDelayProfile => "no untagged delay profile is configured"

end Acquisition
