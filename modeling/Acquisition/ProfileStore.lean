import Acquisition.DelayProfile
import Acquisition.Profile
import Acquisition.Settings.Basic
import Acquisition.Text.Lowercase

/-!
# The store of profiles

All quality profiles and delay profiles of a running program.  A store exists only if there is a
quality profile to fall back on and a delay profile for everything that no tag claims.

## Main definitions

* `ProfileStore.build`: a store of given profiles.
* `ProfileStore.ofSettings`: a store of configured profiles.
* `ProfileStore.profile`, `ProfileStore.delayFor`: look-up.
-/

namespace Acquisition

/-- The profiles in use. -/
structure ProfileStore where
  /-- The quality profiles by increasing number, each number once. -/
  profiles : List Profile
  /-- The quality profile with the smallest number. -/
  fallback : Profile
  /-- The delay profiles with tags, by increasing order. -/
  tagged : List DelayProfile
  /-- The delay profile for everything that no tag claims. -/
  untagged : DelayProfile
  deriving Repr, Inhabited

namespace ProfileStore

/-! ### Building a store -/

/-- Puts a profile in its place by number; one with the same number gives way. -/
def insertProfile (profile : Profile) : List Profile → List Profile
  | [] => [profile]
  | first :: rest =>
    if profile.id < first.id then profile :: first :: rest
    else if profile.id == first.id then profile :: rest
    else first :: insertProfile profile rest

/-- The profiles by increasing number; of several with one number the last stays. -/
def byNumber (profiles : List Profile) : List Profile :=
  profiles.foldl (fun sorted profile => insertProfile profile sorted) []

/-- A store of the profiles, or the first thing that is wrong with them. -/
def build (profiles : List Profile) (delays : List DelayProfile) :
    Except ConfigError ProfileStore := do
  let profiles := byNumber profiles
  let some fallback := profiles.head? | throw .noProfiles
  delays.forM DelayProfile.check
  let some untagged := delays.find? (·.isGlobal) | throw .missingGlobalDelayProfile
  let tagged := (delays.filter (!·.isGlobal)).mergeSort fun a b => decide (a.order ≤ b.order)
  return { profiles, fallback, tagged, untagged }

/-! ### Reading settings -/

/-- The catalogue quality with the name. -/
def resolveQuality (name : String) : Except ConfigError Quality :=
  match Quality.ofName? name with
  | some quality => .ok quality
  | none => .error (.unknownQuality name)

/-- The quality profile that a section configures; all its qualities are wanted. -/
def resolveProfile (entry : ProfileSettings) : Except ConfigError Profile := do
  let items ← entry.qualities.mapM fun name => do
    let quality ← resolveQuality name
    return { quality, allowed := true : ProfileItem }
  let cutoff ← resolveQuality entry.cutoff
  let profile ← Profile.ofItems entry.id entry.name items cutoff
  return { profile with upgradeAllowed := entry.upgradeAllowed }

/-- The delay profile that a section configures. -/
def resolveDelay (entry : DelaySettings) : Except ConfigError DelayProfile := do
  let word := Text.lowercase entry.preferredProtocol
  let some preferred := Protocol.ofName? word | throw (.unknownProtocol entry.id word)
  return {
    id := entry.id
    order := entry.order
    preferred
    usenetMinutes := entry.usenetDelayMinutes
    torrentMinutes := entry.torrentDelayMinutes
    tags := Tags.ofList entry.tags }

/-- A store of the configured profiles: quality profiles are read first, then delay profiles,
then the store is built. -/
def ofSettings (profiles : List ProfileSettings) (delays : List DelaySettings) :
    Except ConfigError ProfileStore := do
  let profiles ← profiles.mapM resolveProfile
  let delays ← delays.mapM resolveDelay
  build profiles delays

/-! ### Look-up -/

/-- The quality profile with the number. -/
def profile (store : ProfileStore) (id : ProfileId) : Except ConfigError Profile :=
  match store.profiles.find? (·.id == id) with
  | some profile => .ok profile
  | none => .error (.unknownProfile id)

/-- The better of two delay profiles for a set of tags: the one that shares more, the earlier
one on a tie. -/
def betterMatch (tags : Tags) (best : Option DelayProfile) (profile : DelayProfile) :
    Option DelayProfile :=
  let shared := profile.tags.overlap tags
  if shared == 0 then best
  else
    match best with
    | none => some profile
    | some other => if other.tags.overlap tags < shared then some profile else some other

/-- The delay profile for a set of tags: the one that shares most, the lowest order on a tie,
and the untagged one when none shares any. -/
def delayFor (store : ProfileStore) (tags : Tags) : DelayProfile :=
  (store.tagged.foldl (betterMatch tags) none).getD store.untagged

end ProfileStore

end Acquisition
