import Acquisition.Client.Address
import Acquisition.Client.Http
import Acquisition.Json.Parser
import Acquisition.Stored.Basic
import Acquisition.Text.Lowercase
import Acquisition.Text.Split

/-!
# qBittorrent

The adapter for a client that fetches torrents.  It knows its downloads by the hash of the
torrent, which it compares regardless of case and which is kept in lower case.

## Main definitions

* `Qbittorrent`: the settings; `Qbittorrent.client`: the client.
* `Qbittorrent.statusOfState`: the status that a state stands for.
* `magnetHash?`: the hash in a magnet link.
-/

namespace Acquisition

/-- How a client is reached. -/
structure Qbittorrent where
  name : String
  /-- The address, without trailing slashes. -/
  base : String
  username : Option String
  password : Option String
  /-- The category of the downloads that are asked for and added. -/
  category : Option String
  deriving DecidableEq, Repr, Inhabited

/-! ### Magnet links -/

/-- The hash in a magnet link: the value of its first parameter `xt`, if that is a hash. -/
def magnetHash? (url : String) : Option String := do
  let query ← Text.dropBeginning? "magnet:?" url.toList
  let parameters := (Text.pieces '&' query).filterMap (Text.splitFirst? '=')
  let (_, value) ← parameters.find? (·.1 == "xt".toList)
  let hash ← Text.dropBeginning? "urn:btih:" value
  return String.ofList hash

/-! ### Downloads -/

namespace Qbittorrent

/-- The time left that the client reports when it cannot tell: a hundred days. -/
def unknownSeconds : Int := 8640000

/-- A torrent as the client reports it. -/
structure Torrent where
  hash : String
  name : String
  size : UInt64
  left : UInt64
  seconds : Int
  state : String
  category : Option String
  contentPath : Option String
  deriving DecidableEq, Repr, Inhabited

/-- The names of the fields in a report about a torrent. -/
def Torrent.fields : List String :=
  ["hash", "name", "size", "amount_left", "eta", "state", "category", "content_path"]

/-- The torrent that a report describes. -/
def Torrent.ofJson? (j : Json) : Option Torrent := do
  let record ← Stored.Record.ofBody? Torrent.fields j
  let seconds ←
    match record.field? 4 "eta" with
    | none => some 0
    | some value => value.int64?
  return {
    hash := ← record.required 0 "hash"
    name := ← record.required 1 "name"
    size := ← record.defaulted 2 "size" 0
    left := ← record.defaulted 3 "amount_left" 0
    seconds
    state := ← record.defaulted 5 "state" ""
    category := ← record.defaulted 6 "category" none
    contentPath := ← record.defaulted 7 "content_path" none }

/-- The status that a state stands for. -/
def statusOfState (state : String) : QueueStatus :=
  let state := (Text.lowercase state).toList
  if Text.occurs "error" state || Text.occurs "missingfiles" state then .failed
  else if state == "stalleddl".toList then .warning
  else if "up".toList.isSuffixOf state || state == "uploading".toList ||
      Text.occurs "completed" state then .completed
  else if Text.occurs "paused" state || Text.occurs "stopped" state then .paused
  else if Text.occurs "downloading" state || Text.occurs "meta" state ||
      state == "forceddl".toList then .downloading
  else .queued

/-- The time left, when the client can tell. -/
def Torrent.timeLeft (torrent : Torrent) : Option Span :=
  if 0 ≤ torrent.seconds && torrent.seconds < unknownSeconds then
    some (Span.ofSeconds torrent.seconds)
  else none

/-- A torrent as a download. -/
def Torrent.item (torrent : Torrent) : DownloadItem :=
  let status := statusOfState torrent.state
  { downloadId := Text.lowercase torrent.hash
    title := torrent.name
    category := torrent.category.filter fun category => !Text.isBlankText category
    size := torrent.size
    left := torrent.left
    timeLeft := torrent.timeLeft
    status
    outputPath := torrent.contentPath.map Path.mk
    message :=
      if status == .failed || status == .warning then
        some s!"qBittorrent state: {torrent.state}"
      else none }

/-- The downloads that a body lists. -/
def readItems (body : String) : Except ClientError (List DownloadItem) :=
  match (Json.parse? body).bind (Json.listOf? Torrent.ofJson?) with
  | some torrents => .ok (torrents.map Torrent.item)
  | none => .error (.deserialization "unexpected list of torrents")

/-! ### Calls -/

variable {σ : Type}

/-- Logs in, if a name and a password are configured. -/
def login (config : Qbittorrent) (transport : Transport σ) : ClientCall σ Unit :=
  match config.username, config.password with
  | some username, some password =>
    ClientCall.andThen (.done (checkAddress (config.base ++ "/api/v2/auth/login"))) fun url =>
      ClientCall.andThen
        (.fetch transport { url, form := some [("username", username), ("password", password)] })
        fun body =>
          .done (if Text.trim body == "Ok." then .ok () else .error .authentication)
  | _, _ => .done (.ok ())

/-- Logs in and sends a request to a place below the base. -/
def call (config : Qbittorrent) (transport : Transport σ) (place : String)
    (query : List (String × String)) (form : Option (List (String × String))) :
    ClientCall σ String :=
  ClientCall.andThen (config.login transport) fun _ =>
    ClientCall.andThen (.done (checkAddress (config.base ++ place))) fun url =>
      .fetch transport { url, query, form }

/-- The category as a field of a request. -/
def categoryField (config : Qbittorrent) : List (String × String) :=
  (config.category.map fun category => ("category", category)).toList

/-- The downloads of the configured category. -/
def items (config : Qbittorrent) (transport : Transport σ) : ClientCall σ (List DownloadItem) :=
  ClientCall.andThen (config.call transport "/api/v2/torrents/info" config.categoryField none)
    fun body => .done (readItems body)

/-- The hash that a release is known by: that of its magnet link, else its own. -/
def hashOf (release : Release) : Except ClientError String :=
  match magnetHash? release.downloadUrl <|> release.infoHash with
  | some hash => .ok hash
  | none => .error (.missingInfoHash release.title)

/-- Adds a release; it is known by its hash from then on. -/
def add (config : Qbittorrent) (transport : Transport σ) (release : Release) :
    ClientCall σ String :=
  ClientCall.andThen (.done (hashOf release)) fun hash =>
    let form := ("urls", release.downloadUrl) :: config.categoryField
    ClientCall.andThen (config.call transport "/api/v2/torrents/add" [] (some form)) fun body =>
      .done
        (if Text.trim body == "Fails." then .error (.rejected release.title)
        else .ok (Text.lowercase hash))

/-- Removes a download, with or without its data. -/
def remove (config : Qbittorrent) (transport : Transport σ) (item : DownloadItem)
    (deleteData : Bool) : ClientCall σ Unit :=
  let form := [("hashes", Text.lowercase item.downloadId),
    ("deleteFiles", if deleteData then "true" else "false")]
  ClientCall.andThen (config.call transport "/api/v2/torrents/delete" [] (some form))
    fun _ => .done (.ok ())

/-- The client over a transport. -/
def client (config : Qbittorrent) (transport : Transport σ) : DownloadClient σ where
  name := config.name
  protocol := .torrent
  test :=
    ClientCall.andThen (config.call transport "/api/v2/app/version" [] none)
      fun _ => .done (.ok ())
  items := config.items transport
  add := config.add transport
  remove := config.remove transport

end Qbittorrent

end Acquisition
