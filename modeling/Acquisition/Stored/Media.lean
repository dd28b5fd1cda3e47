import Acquisition.Decision
import Acquisition.Name.Release
import Acquisition.Queue.Status
import Acquisition.Stored.Quality

/-!
# Stored media, releases, history and decisions
-/

namespace Acquisition

open Stored

/-! ### Media and releases -/

instance : Stored MediaFile where
  encode file := .obj [("id", encodeId file.id), ("media_id", encodeId file.mediaId),
    ("path", encode file.path), ("size", encode file.size), ("quality", encode file.quality),
    ("languages", encode file.languages), ("release_group", encode file.group),
    ("date_added", encodeInstant file.added)]
  decode? j := do
    let record ← Record.ofJson? 8 j
    return {
      id := ← (record.field? 0 "id").bind decodeId?
      mediaId := ← (record.field? 1 "media_id").bind decodeId?
      path := ← record.required 2 "path"
      size := ← record.required 3 "size"
      quality := ← record.required 4 "quality"
      languages := ← record.required 5 "languages"
      group := ← record.optional 6 "release_group"
      added := ← (record.field? 7 "date_added").bind decodeInstant? }

/-- A year that fits into 16 bits, or nothing. -/
def decodeYear? (field : Option Json) : Option (Option Nat) :=
  match field with
  | none | some .null => some none
  | some value => value.nat16?.map some

instance : Stored Media where
  encode media := .obj [("id", encodeId media.id), ("title", encode media.title),
    ("year", encode media.year), ("path", encode media.path),
    ("profile_id", encode media.profileId), ("tags", encode media.tags),
    ("monitored", encode media.monitored), ("media_file", encode media.file)]
  decode? j := do
    let record ← Record.ofJson? 8 j
    return {
      id := ← (record.field? 0 "id").bind decodeId?
      title := ← record.required 1 "title"
      year := ← decodeYear? (record.field? 2 "year")
      path := ← record.required 3 "path"
      profileId := ← record.required 4 "profile_id"
      tags := ← (record.field? 5 "tags").bind decodeTags?
      monitored := ← record.required 6 "monitored"
      file := ← record.optional 7 "media_file" }

instance : Stored MediaInfo where
  encode info := .obj [("audio_stream_count", encode info.audioStreams),
    ("video_codec", encode info.videoCodec), ("audio_codec", encode info.audioCodec),
    ("run_time_seconds", encode info.runSeconds)]
  decode? j := do
    let record ← Record.ofJson? 4 j
    return {
      audioStreams := ← record.required 0 "audio_stream_count"
      videoCodec := ← record.optional 1 "video_codec"
      audioCodec := ← record.optional 2 "audio_codec"
      runSeconds := ← record.optional 3 "run_time_seconds" }

instance : Stored Release where
  encode release := .obj [("guid", encode release.guid), ("title", encode release.title),
    ("indexer", encode release.indexer), ("indexer_tags", encode release.indexerTags),
    ("publish_date", encodeInstant release.published), ("protocol", encode release.protocol),
    ("size", encode release.size), ("download_url", encode release.downloadUrl),
    ("info_hash", encode release.infoHash), ("seeders", encode release.seeders),
    ("peers", encode release.peers), ("media_ids", .list encodeId release.mediaIds)]
  decode? j := do
    let record ← Record.ofJson? 12 j
    return {
      guid := ← record.required 0 "guid"
      title := ← record.required 1 "title"
      indexer := ← record.required 2 "indexer"
      indexerTags := ← (record.field? 3 "indexer_tags").bind decodeTags?
      published := ← (record.field? 4 "publish_date").bind decodeInstant?
      protocol := ← record.required 5 "protocol"
      size := ← record.required 6 "size"
      downloadUrl := ← record.required 7 "download_url"
      infoHash := ← record.optional 8 "info_hash"
      seeders := ← record.optional 9 "seeders"
      peers := ← record.optional 10 "peers"
      mediaIds := ← (record.field? 11 "media_ids").bind (Json.listOf? decodeId?) }

instance : Stored ParsedRelease where
  encode parsed := .obj [("title", encode parsed.title),
    ("media_title", encode parsed.mediaTitle), ("year", encode parsed.year),
    ("quality", encode parsed.quality), ("languages", encode parsed.languages),
    ("release_group", encode parsed.group)]
  decode? j := do
    let record ← Record.ofJson? 6 j
    return {
      title := ← record.required 0 "title"
      mediaTitle := ← record.optional 1 "media_title"
      year := ← decodeYear? (record.field? 2 "year")
      quality := ← record.required 3 "quality"
      languages := ← record.required 4 "languages"
      group := ← record.optional 5 "release_group" }

/-- The word for where a search came from. -/
def SearchContext.name : SearchContext → String
  | rss => "rss"
  | automatic => "automatic"
  | userInvoked => "user_invoked"

/-- Where a search came from, by its word. -/
def SearchContext.ofName? : String → Option SearchContext
  | "rss" => some rss
  | "automatic" => some automatic
  | "user_invoked" => some userInvoked
  | _ => none

instance : Stored SearchContext :=
  ⟨fun context => .str context.name, fun j => (readWord? j).bind SearchContext.ofName?⟩

/-! ### History -/

instance : Stored HistoryEvent :=
  ⟨fun event => .str event.name, fun j => (readWord? j).bind HistoryEvent.ofName?⟩

/-- A record of the log under its identifier, as it is stored. -/
structure HistoryEntry where
  id : Nat
  record : HistoryRecord
  deriving DecidableEq, Repr, Inhabited

instance : Stored HistoryEntry where
  encode entry := .obj [("id", encodeId entry.id), ("media_id", encodeId entry.record.mediaId),
    ("event_type", encode entry.record.event), ("download_id", encode entry.record.downloadId),
    ("quality", encode entry.record.quality), ("languages", encode entry.record.languages),
    ("source_title", encode entry.record.sourceTitle),
    ("indexer", encode entry.record.indexer), ("protocol", encode entry.record.protocol),
    ("date", encodeInstant entry.record.date), ("message", encode entry.record.message)]
  decode? j := do
    let record ← Record.ofJson? 11 j
    return {
      id := ← (record.field? 0 "id").bind decodeId?
      record := {
        mediaId := ← (record.field? 1 "media_id").bind decodeId?
        event := ← record.required 2 "event_type"
        downloadId := ← record.optional 3 "download_id"
        quality := ← record.required 4 "quality"
        languages := ← record.required 5 "languages"
        sourceTitle := ← record.required 6 "source_title"
        indexer := ← record.optional 7 "indexer"
        protocol := ← record.optional 8 "protocol"
        date := ← (record.field? 9 "date").bind decodeInstant?
        message := ← record.optional 10 "message" } }

instance : Stored QueueStatus :=
  ⟨fun status => .str status.name, fun j => (readWord? j).bind QueueStatus.ofName?⟩

instance : Stored TrackedState :=
  ⟨fun state => .str state.name, fun j => (readWord? j).bind TrackedState.ofName?⟩

/-! ### Decisions -/

instance : Stored RejectionKind :=
  ⟨fun kind => .str kind.name, fun j => (readWord? j).bind RejectionKind.ofName?⟩

instance : Stored RejectionType :=
  ⟨fun type => .str type.name, fun j => (readWord? j).bind RejectionType.ofName?⟩

/-- The fields of a stored rejection. -/
def Rejection.fields (rejection : Rejection) : List (String × Json) :=
  [("kind", encode rejection.kind), ("message", encode rejection.message),
    ("rejection_type", encode rejection.type)]

instance : Stored Rejection where
  encode rejection := .obj rejection.fields
  decode? j := do
    let record ← Record.ofJson? 3 j
    return {
      kind := ← record.required 0 "kind"
      message := ← record.required 1 "message"
      type := ← record.required 2 "rejection_type" }

/-- Reads a decision with the verdict, given the stored rejection. -/
def decodeVerdict? (verdict : Json) (rejection : Json) : Option Decision :=
  match verdict with
  | .str "accepted" | .int 0 => some .accepted
  | .str "rejected" | .int 1 => (decode? rejection).map .rejected
  | _ => none

/-- A decision is stored as its verdict, beside the fields of the rejection if there is one. -/
instance : Stored Decision where
  encode
    | .accepted => .obj [("verdict", .str "accepted")]
    | .rejected rejection => .obj (("verdict", .str "rejected") :: rejection.fields)
  decode? j :=
    match j with
    | .obj fields =>
      (j.field? "verdict").bind fun verdict =>
        decodeVerdict? verdict (.obj (fields.filter (·.1 != "verdict")))
    | .arr (verdict :: rest) =>
      (decodeVerdict? verdict (.arr rest)).filter fun decision =>
        !decision.isAccepted || rest.isEmpty
    | _ => none

end Acquisition
