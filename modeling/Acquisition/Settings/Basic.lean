/-!
# Settings

What a user can configure, and the values that hold where nothing is configured.
-/

namespace Acquisition

/-- How the program reports what it does. -/
structure TelemetrySettings where
  logLevel : String := "info"
  json : Bool := false
  deriving DecidableEq, Repr, Inhabited

/-- How often the background jobs run. -/
structure SchedulerSettings where
  maxConcurrentJobs : Nat := 8
  queueRefreshSeconds : Nat := 30
  pendingReleaseSeconds : Nat := 60
  broadcastTickSeconds : Nat := 1
  deriving DecidableEq, Repr, Inhabited

/-- What the rules depend on. -/
structure DecisionSettings where
  /-- Beginnings of the names of folders that a download client still works in. -/
  workingFolders : List String := ["_UNPACK_", "_FAILED_"]
  /-- A redone release may replace a file of the same quality. -/
  propersAndRepacks : Bool := true
  /-- Completed downloads are imported, so that one may turn up again. -/
  completedDownloadHandling : Bool := true
  minimumAgeMinutes : Nat := 0
  unpackingGraceMinutes : Nat := 5
  deriving DecidableEq, Repr, Inhabited

/-- How the queue is shown. -/
structure QueueSettings where
  broadcastDebounceSeconds : Nat := 5
  defaultPageSize : Nat := 20
  deriving DecidableEq, Repr, Inhabited

/-- The download clients that there is an adapter for. -/
inductive ClientKind
  | qbittorrent
  | sabnzbd
  deriving DecidableEq, Repr, Inhabited

/-- The word for a kind of client. -/
def ClientKind.name : ClientKind → String
  | qbittorrent => "qbittorrent"
  | sabnzbd => "sabnzbd"

/-- The kind of client that a word stands for. -/
def ClientKind.ofName? : String → Option ClientKind
  | "qbittorrent" => some qbittorrent
  | "sabnzbd" => some sabnzbd
  | _ => none

/-- How to reach one download client. -/
structure ClientSettings where
  name : String
  kind : ClientKind
  baseUrl : String
  username : Option String := none
  password : Option String := none
  apiKey : Option String := none
  category : Option String := none
  enabled : Bool := true
  deriving DecidableEq, Repr, Inhabited

/-- A quality profile as it is configured: its qualities by name, worst first. -/
structure ProfileSettings where
  id : Nat := 1
  name : String := "HD-1080p"
  qualities : List String :=
    ["HDTV-720p", "WEBDL-720p", "Bluray-720p", "HDTV-1080p", "WEBDL-1080p", "Bluray-1080p"]
  cutoff : String := "Bluray-1080p"
  upgradeAllowed : Bool := true
  deriving DecidableEq, Repr, Inhabited

/-- A delay profile as it is configured. -/
structure DelaySettings where
  id : Nat := 1
  order : Nat := 4294967295
  preferredProtocol : String := "usenet"
  usenetDelayMinutes : Nat := 0
  torrentDelayMinutes : Nat := 0
  tags : List Nat := []
  deriving DecidableEq, Repr, Inhabited

/-- Everything that can be configured. -/
structure Settings where
  telemetry : TelemetrySettings := {}
  scheduler : SchedulerSettings := {}
  decision : DecisionSettings := {}
  queue : QueueSettings := {}
  clients : List ClientSettings := []
  profiles : List ProfileSettings := [{}]
  delayProfiles : List DelaySettings := [{}]
  deriving DecidableEq, Repr, Inhabited

end Acquisition
