import Acquisition.Client.Address
import Acquisition.Client.Http
import Acquisition.Json.Parser
import Acquisition.Stored.Basic
import Acquisition.Text.Decimal
import Acquisition.Text.Lowercase
import Acquisition.Text.Split

/-!
# SABnzbd

The adapter for a client that fetches from usenet.  It has one address for everything; what is
asked for is its mode.  Unfinished downloads stand in its queue, finished ones in its history.

## Main definitions

* `Sabnzbd`: the settings; `Sabnzbd.client`: the client.
* `Sabnzbd.readTimeLeft`: the time left, from colon-separated numbers.
* `Sabnzbd.megabytes`: a size in bytes, from a number of megabytes.
-/

namespace Acquisition

/-- How a client is reached. -/
structure Sabnzbd where
  name : String
  /-- The address, without trailing slashes. -/
  base : String
  apiKey : Option String
  /-- The category of the downloads that are asked for and added. -/
  category : Option String
  deriving DecidableEq, Repr, Inhabited

namespace Sabnzbd

/-! ### Times and sizes -/

/-- The seconds in one unit of each place of a time left, from the right. -/
def units : List Int := [1, 60, 3600, 86400]

/-- A product or a sum of 64 bits; one that is out of their range breaks the program off. -/
def checked (n : Int) : Except ClientError Int :=
  if Int64.minValue.toInt ≤ n && n ≤ Int64.maxValue.toInt then .ok n else .error .breakdown

/-- The seconds of places and their units, added one after the other.  A place that is no number
tells nothing. -/
def addPlaces : List (String × Int) → Int → Except ClientError (Option Int)
  | [], seconds => .ok (some seconds)
  | (place, unit) :: places, seconds =>
    match Text.readInt? (Text.trim place) with
    | some n => do
      let product ← checked (n * unit)
      let sum ← checked (seconds + product)
      addPlaces places sum
    | none => .ok none

/-- The largest number of seconds that a span can hold. -/
def maxSeconds : Int := 9223372036854775

/-- The time left that a text tells: seconds, minutes, hours and days between colons, from the
right.  A text that is no time tells nothing; a time that no span can hold breaks the program
off. -/
def readTimeLeft (text : String) : Except ClientError (Option Span) :=
  let places := (Text.pieces ':' text.toList).map String.ofList
  if units.length < places.length then .ok none
  else do
    match ← addPlaces (places.reverse.zip units) 0 with
    | none => return none
    | some seconds =>
      if -maxSeconds ≤ seconds && seconds ≤ maxSeconds then return some (Span.ofSeconds seconds)
      else throw .breakdown

/-- The bytes in a number of megabytes, rounded to the nearest; zero if it is no number. -/
def megabytes (text : String) : UInt64 :=
  match Text.readFloat? (Text.trim text) with
  | some x => (x * 1048576.0).round.toUInt64
  | none => 0

/-! ### Downloads -/

/-- The category of a download, if it has one. -/
def namedCategory (category : Option String) : Option String :=
  category.filter fun name => !name.isEmpty && name != "*"

/-- The status of a download in the queue. -/
def queueStatus (status : String) : QueueStatus :=
  let status := Text.lowercase status
  if ["downloading", "fetching", "grabbing", "propagating"].contains status then .downloading
  else if status == "paused" then .paused
  else .queued

/-- The status of a download in the history; what is neither done nor failed is still being
worked on. -/
def historyStatus (status : String) : QueueStatus :=
  let status := Text.lowercase status
  if status == "completed" then .completed
  else if status == "failed" then .failed
  else .downloading

/-- A download in the queue as the client reports it. -/
structure QueueSlot where
  id : String
  fileName : String
  category : Option String
  megabytes : String
  megabytesLeft : String
  timeLeft : String
  status : String
  deriving DecidableEq, Repr, Inhabited

/-- The names of the fields in a report about a download in the queue. -/
def QueueSlot.fields : List String :=
  ["nzo_id", "filename", "cat", "mb", "mbleft", "timeleft", "status"]

instance : Stored QueueSlot where
  encode slot := .obj [("nzo_id", .str slot.id), ("filename", .str slot.fileName),
    ("cat", Stored.encode slot.category), ("mb", .str slot.megabytes),
    ("mbleft", .str slot.megabytesLeft), ("timeleft", .str slot.timeLeft),
    ("status", .str slot.status)]
  decode? j := do
    let record ← Stored.Record.ofBody? QueueSlot.fields j
    return {
      id := ← record.required 0 "nzo_id"
      fileName := ← record.required 1 "filename"
      category := ← record.defaulted 2 "cat" none
      megabytes := ← record.defaulted 3 "mb" ""
      megabytesLeft := ← record.defaulted 4 "mbleft" ""
      timeLeft := ← record.defaulted 5 "timeleft" ""
      status := ← record.defaulted 6 "status" "" }

/-- A download in the queue; while it is paused nothing is known of the time left. -/
def QueueSlot.item (slot : QueueSlot) : Except ClientError DownloadItem := do
  let status := queueStatus slot.status
  let timeLeft ← if status == .paused then pure none else readTimeLeft slot.timeLeft
  return {
    downloadId := slot.id
    title := slot.fileName
    category := namedCategory slot.category
    size := Sabnzbd.megabytes slot.megabytes
    left := Sabnzbd.megabytes slot.megabytesLeft
    timeLeft
    status
    outputPath := none
    message := none }

/-- A download in the history as the client reports it. -/
structure HistorySlot where
  id : String
  name : String
  category : Option String
  bytes : UInt64
  status : String
  failure : String
  storage : Option String
  deriving DecidableEq, Repr, Inhabited

/-- The names of the fields in a report about a download in the history. -/
def HistorySlot.fields : List String :=
  ["nzo_id", "name", "category", "bytes", "status", "fail_message", "storage"]

instance : Stored HistorySlot where
  encode slot := .obj [("nzo_id", .str slot.id), ("name", .str slot.name),
    ("category", Stored.encode slot.category), ("bytes", Stored.encode slot.bytes),
    ("status", .str slot.status), ("fail_message", .str slot.failure),
    ("storage", Stored.encode slot.storage)]
  decode? j := do
    let record ← Stored.Record.ofBody? HistorySlot.fields j
    return {
      id := ← record.required 0 "nzo_id"
      name := ← record.required 1 "name"
      category := ← record.defaulted 2 "category" none
      bytes := ← record.defaulted 3 "bytes" 0
      status := ← record.defaulted 4 "status" ""
      failure := ← record.defaulted 5 "fail_message" ""
      storage := ← record.defaulted 6 "storage" none }

/-- A download in the history. -/
def HistorySlot.item (slot : HistorySlot) : DownloadItem :=
  let status := historyStatus slot.status
  { downloadId := slot.id
    title := slot.name
    category := namedCategory slot.category
    size := slot.bytes
    left := if status == .completed then 0 else slot.bytes
    timeLeft := none
    status
    outputPath := (slot.storage.filter (!·.isEmpty)).map Path.mk
    message := if slot.failure.isEmpty then none else some slot.failure }

/-- The slots in the section of an answer. -/
def slotsIn? {α : Type} [Stored α] (name : String) (j : Json) : Option (List α) := do
  let answer ← Stored.Record.ofBody? [name] j
  let record ← (answer.field? 0 name).bind (Stored.Record.ofBody? ["slots"])
  record.defaulted 0 "slots" []

/-! ### Calls -/

variable {σ : Type}

/-- The text of the error that an answer reports, if it reports one. -/
def errorText? (j : Json) : Option String :=
  (Stored.Record.ofBody? ["error"] j).bind fun record => record.required 0 "error"

/-- The error that an answer reports: one about the key is about who is asking. -/
def errorOf (text : String) : ClientError :=
  if Text.occurs "api key" (Text.lowercase text).toList then .authentication else .rejected text

/-- The answer that a body holds, unless it reports an error. -/
def readAnswer {α : Type} (read : Json → Option α) (body : String) : Except ClientError α :=
  match Json.parse? body with
  | none => .error (.deserialization "no answer")
  | some j =>
    match errorText? j with
    | some text => .error (errorOf text)
    | none =>
      match read j with
      | some answer => .ok answer
      | none => .error (.deserialization "unexpected answer")

/-- Asks for an answer in a mode. -/
def call {α : Type} (config : Sabnzbd) (transport : Transport σ) (read : Json → Option α)
    (mode : String) (parameters : List (String × String)) : ClientCall σ α :=
  ClientCall.andThen (.done (checkAddress (config.base ++ "/api"))) fun url =>
    let key := (config.apiKey.map fun key => ("apikey", key)).toList
    let query := [("mode", mode), ("output", "json")] ++ key ++ parameters
    ClientCall.andThen (.fetch transport { url, query }) fun body =>
      .done (readAnswer read body)

/-- The category as a field of a request. -/
def categoryField (config : Sabnzbd) (name : String) : List (String × String) :=
  (config.category.map fun category => (name, category)).toList

/-- The downloads of the configured category, those of the queue first. -/
def items (config : Sabnzbd) (transport : Transport σ) : ClientCall σ (List DownloadItem) :=
  let parameters := config.categoryField "category"
  ClientCall.andThen
    (config.call transport (slotsIn? "queue" : Json → Option (List QueueSlot)) "queue" parameters)
    fun queued =>
      ClientCall.andThen
        (config.call transport (slotsIn? "history" : Json → Option (List HistorySlot)) "history"
          parameters)
        fun finished =>
          .done ((queued.mapM QueueSlot.item).map (· ++ finished.map HistorySlot.item))

/-- A flag that may be missing, in which case it is not set. -/
def flag? (index : Nat) (name : String) (record : Stored.Record) : Option Bool :=
  record.defaulted index name false

/-- The numbers of the downloads that were added, if the client says that it added them. -/
def addedIds? (j : Json) : Option (List String) := do
  let record ← Stored.Record.ofBody? ["status", "nzo_ids"] j
  let added ← flag? 0 "status" record
  let ids ← record.defaulted 1 "nzo_ids" []
  return if added then ids else []

/-- Adds a release; it is known by the first number that the client answers. -/
def add (config : Sabnzbd) (transport : Transport σ) (release : Release) : ClientCall σ String :=
  let parameters := [("name", release.downloadUrl), ("nzbname", release.title)] ++
    config.categoryField "cat"
  ClientCall.andThen (config.call transport addedIds? "addurl" parameters) fun ids =>
    .done
      (match ids.head? with
      | some id => .ok id
      | none => .error (.rejected release.title))

/-- Removes a download from where it stands, with or without its data. -/
def remove (config : Sabnzbd) (transport : Transport σ) (item : DownloadItem)
    (deleteData : Bool) : ClientCall σ Unit :=
  let mode := if item.status == .completed || item.status == .failed then "history" else "queue"
  let parameters := [("name", "delete"), ("value", item.downloadId),
    ("del_files", if deleteData then "1" else "0")]
  ClientCall.andThen
    (config.call transport
      (fun j => (Stored.Record.ofBody? ["status"] j).bind (flag? 0 "status")) mode parameters)
    fun _ => .done (.ok ())

/-- The version of the client. -/
def version? (j : Json) : Option String :=
  (Stored.Record.ofBody? ["version"] j).bind fun record => record.required 0 "version"

/-- The client over a transport. -/
def client (config : Sabnzbd) (transport : Transport σ) : DownloadClient σ where
  name := config.name
  protocol := .usenet
  test :=
    ClientCall.andThen (config.call transport version? "version" []) fun _ => .done (.ok ())
  items := config.items transport
  add := config.add transport
  remove := config.remove transport

end Sabnzbd

end Acquisition
