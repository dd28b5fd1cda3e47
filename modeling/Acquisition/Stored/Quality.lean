import Acquisition.DelayProfile
import Acquisition.Profile
import Acquisition.Stored.Basic

/-!
# Stored qualities and profiles

A quality is stored as its number, and only qualities of the catalogue can be read back.
-/

namespace Acquisition

open Stored

instance : Stored Quality :=
  ⟨fun quality => .nat quality.id, fun j => j.nat32?.bind Quality.ofId?⟩

instance : Stored Revision where
  encode revision := .obj [("version", encode revision.version), ("real", encode revision.real)]
  decode? j := do
    let record ← Record.ofJson? 2 j
    return { version := ← record.required 0 "version", real := ← record.required 1 "real" }

instance : Stored QualityModel where
  encode model := .obj [("quality", encode model.quality), ("revision", encode model.revision)]
  decode? j := do
    let record ← Record.ofJson? 2 j
    return {
      quality := ← record.required 0 "quality"
      revision := ← record.required 1 "revision" }

instance : Stored ProfileItem where
  encode item := .obj [("quality", encode item.quality), ("allowed", encode item.allowed)]
  decode? j := do
    let record ← Record.ofJson? 2 j
    return { quality := ← record.required 0 "quality", allowed := ← record.required 1 "allowed" }

/-- The stored form of a profile. -/
def Profile.encode (profile : Profile) : Json :=
  .obj [("id", .nat profile.id), ("name", .str profile.name),
    ("items", Stored.encode profile.items), ("cutoff", Stored.encode profile.cutoff),
    ("upgrade_allowed", .bool profile.upgradeAllowed)]

instance : Stored Protocol :=
  ⟨fun protocol => .str protocol.name, fun j => (readWord? j).bind Protocol.ofName?⟩

/-- A set of tags is stored as a list, which may be read in any order. -/
def decodeTags? (j : Json) : Option Tags :=
  (decode? j).map Tags.ofList

instance : Stored DelayProfile where
  encode profile := .obj [("id", encode profile.id), ("order", encode profile.order),
    ("preferred_protocol", encode profile.preferred),
    ("usenet_delay_minutes", encode profile.usenetMinutes),
    ("torrent_delay_minutes", encode profile.torrentMinutes), ("tags", encode profile.tags)]
  decode? j := do
    let record ← Record.ofJson? 6 j
    return {
      id := ← record.required 0 "id"
      order := ← record.required 1 "order"
      preferred := ← record.required 2 "preferred_protocol"
      usenetMinutes := ← record.required 3 "usenet_delay_minutes"
      torrentMinutes := ← record.required 4 "torrent_delay_minutes"
      tags := ← (record.field? 5 "tags").bind decodeTags? }

end Acquisition
