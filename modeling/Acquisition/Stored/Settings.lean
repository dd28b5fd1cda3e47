import Acquisition.Settings.Basic
import Acquisition.Stored.Basic

/-!
# Stored settings

The stored form of everything that can be configured.  Numbers of entries and minutes fit into 32
bits, numbers of seconds, jobs and places on a page into 64.  A record that is a list of its fields
may be longer than it has fields.
-/

namespace Acquisition

open Stored

/-- A field with a number of 64 bits. -/
def Stored.Record.count (record : Record) (index : Nat) (name : String) : Option Nat :=
  (record.field? index name).bind Json.nat64?

instance : Stored TelemetrySettings where
  encode settings := .obj [("log_level", encode settings.logLevel), ("json", encode settings.json)]
  decode? j := do
    let record ← Record.ofOpenJson? j
    return { logLevel := ← record.required 0 "log_level", json := ← record.required 1 "json" }

instance : Stored SchedulerSettings where
  encode settings := .obj [("max_concurrent_jobs", .nat settings.maxConcurrentJobs),
    ("queue_refresh_interval_seconds", .nat settings.queueRefreshSeconds),
    ("pending_release_interval_seconds", .nat settings.pendingReleaseSeconds),
    ("broadcast_tick_seconds", .nat settings.broadcastTickSeconds)]
  decode? j := do
    let record ← Record.ofOpenJson? j
    return {
      maxConcurrentJobs := ← record.count 0 "max_concurrent_jobs"
      queueRefreshSeconds := ← record.count 1 "queue_refresh_interval_seconds"
      pendingReleaseSeconds := ← record.count 2 "pending_release_interval_seconds"
      broadcastTickSeconds := ← record.count 3 "broadcast_tick_seconds" }

instance : Stored DecisionSettings where
  encode settings := .obj [
    ("download_client_working_folders", encode settings.workingFolders),
    ("download_propers_and_repacks", encode settings.propersAndRepacks),
    ("enable_completed_download_handling", encode settings.completedDownloadHandling),
    ("minimum_age_minutes", encode settings.minimumAgeMinutes),
    ("unpacking_grace_minutes", encode settings.unpackingGraceMinutes)]
  decode? j := do
    let record ← Record.ofOpenJson? j
    return {
      workingFolders := ← record.required 0 "download_client_working_folders"
      propersAndRepacks := ← record.required 1 "download_propers_and_repacks"
      completedDownloadHandling := ← record.required 2 "enable_completed_download_handling"
      minimumAgeMinutes := ← record.required 3 "minimum_age_minutes"
      unpackingGraceMinutes := ← record.required 4 "unpacking_grace_minutes" }

instance : Stored QueueSettings where
  encode settings := .obj [("broadcast_debounce_seconds", .nat settings.broadcastDebounceSeconds),
    ("default_page_size", .nat settings.defaultPageSize)]
  decode? j := do
    let record ← Record.ofOpenJson? j
    return {
      broadcastDebounceSeconds := ← record.count 0 "broadcast_debounce_seconds"
      defaultPageSize := ← record.count 1 "default_page_size" }

instance : Stored ClientKind :=
  ⟨fun kind => .str kind.name, fun j => (readWord? j).bind ClientKind.ofName?⟩

instance : Stored ClientSettings where
  encode settings := .obj [("name", encode settings.name), ("kind", encode settings.kind),
    ("base_url", encode settings.baseUrl), ("username", encode settings.username),
    ("password", encode settings.password), ("api_key", encode settings.apiKey),
    ("category", encode settings.category), ("enabled", encode settings.enabled)]
  decode? j := do
    let record ← Record.ofOpenJson? j
    return {
      name := ← record.required 0 "name"
      kind := ← record.required 1 "kind"
      baseUrl := ← record.required 2 "base_url"
      username := ← record.defaulted 3 "username" none
      password := ← record.defaulted 4 "password" none
      apiKey := ← record.defaulted 5 "api_key" none
      category := ← record.defaulted 6 "category" none
      enabled := ← record.defaulted 7 "enabled" true }

instance : Stored ProfileSettings where
  encode settings := .obj [("id", encode settings.id), ("name", encode settings.name),
    ("qualities", encode settings.qualities), ("cutoff", encode settings.cutoff),
    ("upgrade_allowed", encode settings.upgradeAllowed)]
  decode? j := do
    let record ← Record.ofOpenJson? j
    return {
      id := ← record.required 0 "id"
      name := ← record.required 1 "name"
      qualities := ← record.required 2 "qualities"
      cutoff := ← record.required 3 "cutoff"
      upgradeAllowed := ← record.defaulted 4 "upgrade_allowed" true }

instance : Stored DelaySettings where
  encode settings := .obj [("id", encode settings.id), ("order", encode settings.order),
    ("preferred_protocol", encode settings.preferredProtocol),
    ("usenet_delay_minutes", encode settings.usenetDelayMinutes),
    ("torrent_delay_minutes", encode settings.torrentDelayMinutes), ("tags", encode settings.tags)]
  decode? j := do
    let record ← Record.ofOpenJson? j
    return {
      id := ← record.required 0 "id"
      order := ← record.required 1 "order"
      preferredProtocol := ← record.required 2 "preferred_protocol"
      usenetDelayMinutes := ← record.required 3 "usenet_delay_minutes"
      torrentDelayMinutes := ← record.required 4 "torrent_delay_minutes"
      tags := ← record.defaulted 5 "tags" [] }

instance : Stored Settings where
  encode settings := .obj [("telemetry", encode settings.telemetry),
    ("scheduler", encode settings.scheduler), ("decision", encode settings.decision),
    ("queue", encode settings.queue), ("download_clients", encode settings.clients),
    ("profiles", encode settings.profiles), ("delay_profiles", encode settings.delayProfiles)]
  decode? j := do
    let record ← Record.ofOpenJson? j
    return {
      telemetry := ← record.required 0 "telemetry"
      scheduler := ← record.required 1 "scheduler"
      decision := ← record.required 2 "decision"
      queue := ← record.required 3 "queue"
      clients := ← record.required 4 "download_clients"
      profiles := ← record.required 5 "profiles"
      delayProfiles := ← record.required 6 "delay_profiles" }

end Acquisition
