import Acquisition.Client.Basic

/-!
# Clients in memory

Download clients that exist in memory only.  Their state is the list of all of them, so that
several can work side by side.
-/

namespace Acquisition

/-- What was done to a client. -/
inductive ClientAction
  | added (title id : String)
  | removed (id : String) (deleteData : Bool)
  deriving DecidableEq, Repr, Inhabited

/-- A client in memory. -/
structure MemoryClient where
  name : String
  protocol : Protocol
  /-- Polls are not answered. -/
  offline : Bool := false
  /-- The titles of the releases that it does not take. -/
  refused : List String := []
  /-- Nothing can be removed. -/
  frozen : Bool := false
  items : List DownloadItem := []
  /-- What was done to it, in order. -/
  actions : List ClientAction := []
  /-- How many releases it took. -/
  taken : Nat := 0
  /-- How often it was polled. -/
  polls : Nat := 0
  deriving DecidableEq, Repr, Inhabited

namespace MemoryClient

/-- The downloads, if polls are answered. -/
def poll (client : MemoryClient) : Except ClientError (List DownloadItem) × MemoryClient :=
  let result := if client.offline then .error (.request "stub: offline") else .ok client.items
  (result, { client with polls := client.polls + 1 })

/-- Takes a release and queues it under the name of the client and a number. -/
def take (release : Release) (client : MemoryClient) : Except ClientError String × MemoryClient :=
  if client.refused.contains release.title then (.error (.rejected release.title), client)
  else
    let id := s!"{client.name}-{client.taken + 1}"
    let item : DownloadItem :=
      { downloadId := id
        title := release.title
        category := none
        size := release.size
        left := release.size
        timeLeft := none
        status := .queued
        outputPath := none
        message := none }
    (.ok id,
      { client with
        taken := client.taken + 1
        items := client.items ++ [item]
        actions := client.actions ++ [.added release.title id] })

/-- Drops the downloads with the number. -/
def drop (id : String) (deleteData : Bool) (client : MemoryClient) :
    Except ClientError Unit × MemoryClient :=
  if client.frozen then (.error (.request "stub: remove failed"), client)
  else
    (.ok (),
      { client with
        items := client.items.filter (·.downloadId != id)
        actions := client.actions ++ [.removed id deleteData] })

/-- Has the client at a place answer. -/
def at_ {α : Type} (place : Nat) (call : MemoryClient → Except ClientError α × MemoryClient) :
    ClientCall (List MemoryClient) α := fun clients =>
  match clients[place]? with
  | some client =>
    let (result, client) := call client
    (result, clients.set place client)
  | none => (.error (.request "no such client"), clients)

/-- The client at a place. -/
def client (place : Nat) (client : MemoryClient) : DownloadClient (List MemoryClient) where
  name := client.name
  protocol := client.protocol
  test := fun clients => (.ok (), clients)
  items := at_ place poll
  add release := at_ place (take release)
  remove item deleteData := at_ place (drop item.downloadId deleteData)

/-- The clients in their order. -/
def registry (clients : List MemoryClient) : ClientRegistry (List MemoryClient) :=
  clients.mapIdx client

/-- Changes the first client with the name. -/
def modify (name : String) (change : MemoryClient → MemoryClient) :
    List MemoryClient → List MemoryClient
  | [] => []
  | first :: rest =>
    if first.name == name then change first :: rest else first :: modify name change rest

end MemoryClient

end Acquisition
