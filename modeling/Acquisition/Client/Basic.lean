import Acquisition.Queue.Status
import Acquisition.Release

/-!
# Download clients

A download client fetches releases.  The program sees its downloads, sends it releases, and
takes downloads away from it; every one of these may fail, and may change the state of the
client.

## Main definitions

* `DownloadItem`: a download as its client reports it.
* `ClientError`: why a client did not do what it was asked.
* `DownloadClient`, `ClientRegistry`: a client over the state `σ`, and the clients in use.
-/

namespace Acquisition

/-! ### Downloads -/

/-- A download on a client. -/
structure DownloadItem where
  downloadId : String
  title : String
  category : Option String
  /-- The size in bytes. -/
  size : UInt64
  /-- The bytes that are still to come. -/
  left : UInt64
  timeLeft : Option Span
  status : QueueStatus
  outputPath : Option Path
  message : Option String
  deriving DecidableEq, Repr, Inhabited

/-- The two reports say the same; paths are compared as paths. -/
def DownloadItem.same (a b : DownloadItem) : Bool :=
  { a with outputPath := none } == { b with outputPath := none } &&
    match a.outputPath, b.outputPath with
    | none, none => true
    | some p, some q => p.same q
    | _, _ => false

/-! ### Errors -/

/-- Why a client did not do what it was asked. -/
inductive ClientError
  /-- No answer came. -/
  | request (reason : String)
  | authentication
  /-- The configured address is none. -/
  | invalidBaseUrl (reason : String)
  /-- An answer came that reports a failure. -/
  | httpStatus (status : Nat) (body : String)
  /-- An answer came that cannot be understood. -/
  | deserialization (reason : String)
  /-- A torrent that nothing identifies. -/
  | missingInfoHash (title : String)
  | rejected (reason : String)
  /-- A reported time left that overflows, or that no span can hold.  This is no error that anyone is
  told of: the program breaks off, and with it whatever made the call.  Here it is an answer of the
  call, and what is made of that answer further on is not what the program does. -/
  | breakdown
  deriving DecidableEq, Repr, Inhabited

/-- The report of the error. -/
def ClientError.message : ClientError → String
  | request reason => s!"request failed: {reason}"
  | authentication => "authentication failed"
  | invalidBaseUrl reason => s!"invalid base url: {reason}"
  | httpStatus status body => s!"download client responded with status {status}: {body}"
  | deserialization reason => s!"deserialization failed: {reason}"
  | missingInfoHash title => s!"release '{title}' has no info hash or magnet link"
  | rejected reason => s!"download client rejected the request: {reason}"
  | breakdown => "time left out of bounds"

/-! ### Clients -/

/-- A request to a client with the state `σ`: the outcome and the next state. -/
abbrev ClientCall (σ α : Type) := σ → Except ClientError α × σ

/-- A download client. -/
structure DownloadClient (σ : Type) where
  name : String
  protocol : Protocol
  /-- Tells whether it can be reached. -/
  test : ClientCall σ Unit
  /-- The downloads that it has. -/
  items : ClientCall σ (List DownloadItem)
  /-- Sends it a release; the answer is the number of the download. -/
  add : Release → ClientCall σ String
  /-- Takes a download away from it, with or without its data. -/
  remove : DownloadItem → Bool → ClientCall σ Unit

/-- The clients in use, in the order in which they are asked. -/
abbrev ClientRegistry (σ : Type) := List (DownloadClient σ)

namespace ClientRegistry

variable {σ : Type}

/-- The first client with the name, up to the case of ASCII letters. -/
def byName? (clients : ClientRegistry σ) (name : String) : Option (DownloadClient σ) :=
  clients.find? fun client => Text.equalIgnoringCase client.name name

/-- The first client for the protocol. -/
def forProtocol? (clients : ClientRegistry σ) (protocol : Protocol) : Option (DownloadClient σ) :=
  clients.find? (·.protocol == protocol)

end ClientRegistry

end Acquisition
