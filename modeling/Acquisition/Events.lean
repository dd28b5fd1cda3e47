import Acquisition.Stored.Media

/-!
# Events

What the program announces to others: a release was grabbed, a file was imported, a download was
removed.  Events are kept in a log in stored form, each under its topic, until they are drained.

## Main definitions

* `Topic`, `Announcement`: the topics, and the payload type of each.
* `EventLog.publish`, `EventLog.payloads`, `EventLog.count`, `EventLog.drain`: writing and reading
  the log.
-/

namespace Acquisition

open Stored

/-! ### Topics and payloads -/

/-- Where an event is published. -/
inductive Topic
  | releaseGrabbed
  | mediaFileImported
  | downloadRemoved
  deriving DecidableEq, Repr, Inhabited

namespace Topic

/-- The word for a topic. -/
def name : Topic → String
  | releaseGrabbed => "release.grabbed"
  | mediaFileImported => "media.file.imported"
  | downloadRemoved => "download.removed"

/-- The topic that a word stands for. -/
def ofName? : String → Option Topic
  | "release.grabbed" => some releaseGrabbed
  | "media.file.imported" => some mediaFileImported
  | "download.removed" => some downloadRemoved
  | _ => none

end Topic

instance : Stored Topic :=
  ⟨fun topic => .str topic.name, fun j => (readWord? j).bind Topic.ofName?⟩

/-- A release was sent to a download client. -/
structure ReleaseGrabbed where
  mediaId : MediaId
  releaseTitle : String
  indexer : String
  client : String
  downloadId : String
  quality : QualityModel
  deriving DecidableEq, Repr, Inhabited

/-- A file was put into the library. -/
structure MediaFileImported where
  mediaId : MediaId
  fileId : MediaFileId
  path : String
  group : Option String
  downloadId : Option String
  deriving DecidableEq, Repr, Inhabited

/-- A download was taken out of the queue. -/
structure DownloadRemoved where
  downloadId : String
  client : String
  removedFromClient : Bool
  blocklisted : Bool
  deriving DecidableEq, Repr, Inhabited

instance : Stored ReleaseGrabbed where
  encode event := .obj [("media_id", encodeId event.mediaId),
    ("release_title", encode event.releaseTitle), ("indexer", encode event.indexer),
    ("download_client", encode event.client), ("download_id", encode event.downloadId),
    ("quality", encode event.quality)]
  decode? j := do
    let record ← Record.ofJson? 6 j
    return {
      mediaId := ← (record.field? 0 "media_id").bind decodeId?
      releaseTitle := ← record.required 1 "release_title"
      indexer := ← record.required 2 "indexer"
      client := ← record.required 3 "download_client"
      downloadId := ← record.required 4 "download_id"
      quality := ← record.required 5 "quality" }

instance : Stored MediaFileImported where
  encode event := .obj [("media_id", encodeId event.mediaId),
    ("media_file_id", encodeId event.fileId), ("path", encode event.path),
    ("release_group", encode event.group), ("download_id", encode event.downloadId)]
  decode? j := do
    let record ← Record.ofJson? 5 j
    return {
      mediaId := ← (record.field? 0 "media_id").bind decodeId?
      fileId := ← (record.field? 1 "media_file_id").bind decodeId?
      path := ← record.required 2 "path"
      group := ← record.optional 3 "release_group"
      downloadId := ← record.optional 4 "download_id" }

instance : Stored DownloadRemoved where
  encode event := .obj [("download_id", encode event.downloadId),
    ("download_client", encode event.client),
    ("removed_from_client", encode event.removedFromClient),
    ("blocklisted", encode event.blocklisted)]
  decode? j := do
    let record ← Record.ofJson? 4 j
    return {
      downloadId := ← record.required 0 "download_id"
      client := ← record.required 1 "download_client"
      removedFromClient := ← record.required 2 "removed_from_client"
      blocklisted := ← record.required 3 "blocklisted" }

/-- A payload belongs to exactly one topic. -/
class Announcement (α : Type) extends Stored α where
  topic : Topic

instance : Announcement ReleaseGrabbed := ⟨.releaseGrabbed⟩

instance : Announcement MediaFileImported := ⟨.mediaFileImported⟩

instance : Announcement DownloadRemoved := ⟨.downloadRemoved⟩

/-! ### Events with their payload -/

/-- A payload with its topic and the time of the event. -/
structure Event (α : Type) where
  topic : Topic
  occurredAt : Instant
  payload : α
  deriving DecidableEq, Repr, Inhabited

instance {α : Type} [Stored α] : Stored (Event α) where
  encode event := .obj [("topic", encode event.topic),
    ("occurred_at", encodeInstant event.occurredAt), ("payload", encode event.payload)]
  decode? j := do
    let record ← Record.ofJson? 3 j
    return {
      topic := ← record.required 0 "topic"
      occurredAt := ← (record.field? 1 "occurred_at").bind decodeInstant?
      payload := ← record.required 2 "payload" }

/-! ### The log -/

/-- The events that were published and not drained, in order. -/
abbrev EventLog := List (Event Json)

namespace EventLog

/-- Adds an event. -/
def publish {α : Type} [Announcement α] (log : EventLog) (payload : α) (now : Instant) :
    EventLog :=
  log ++ [⟨Announcement.topic α, now, encode payload⟩]

/-- The number of events of a topic. -/
def count (log : EventLog) (topic : Topic) : Nat :=
  log.countP (·.topic == topic)

/-- The payloads of a type, as far as they can be read back. -/
def payloads (log : EventLog) (α : Type) [Announcement α] : List α :=
  (log.filter (·.topic == Announcement.topic α)).filterMap fun event => decode? event.payload

/-- The events as they were written, and the log without them. -/
def drain (log : EventLog) : List (Event Json) × EventLog := (log, [])

end EventLog

end Acquisition
