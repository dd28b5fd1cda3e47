import Acquisition.Client.Basic

/-!
# Talking to a client over HTTP

A client is asked by requests and answers by responses.  How a request travels is left to the
transport, which keeps the cookies of a session in its state.
-/

namespace Acquisition

/-- A request. -/
structure HttpRequest where
  /-- The address without its query. -/
  url : String
  query : List (String × String) := []
  /-- The fields that are posted; a request without them only reads. -/
  form : Option (List (String × String)) := none
  deriving DecidableEq, Repr, Inhabited

/-- A response. -/
structure HttpResponse where
  status : Nat
  body : String
  deriving DecidableEq, Repr, Inhabited

/-- Sends a request; there may be no response, for the reason given. -/
abbrev Transport (σ : Type) := HttpRequest → σ → Except String HttpResponse × σ

/-- The transport that reaches nobody. -/
def Transport.unreachable {σ : Type} : Transport σ := fun _ s => (.error "unreachable", s)

/-- The body of a response that reports success. -/
def HttpResponse.content (response : HttpResponse) : Except ClientError String :=
  if 200 ≤ response.status && response.status < 300 then .ok response.body
  else .error (.httpStatus response.status response.body)

namespace ClientCall

variable {σ α β : Type}

/-- A call whose outcome is known. -/
def done (outcome : Except ClientError α) : ClientCall σ α := fun s => (outcome, s)

/-- Makes one call after another, unless the first one fails. -/
def andThen (call : ClientCall σ α) (next : α → ClientCall σ β) : ClientCall σ β := fun s =>
  match call s with
  | (.ok a, s) => next a s
  | (.error error, s) => (.error error, s)

/-- Sends a request and takes the body of the response. -/
def fetch (transport : Transport σ) (request : HttpRequest) : ClientCall σ String := fun s =>
  match transport request s with
  | (.ok response, s) => (response.content, s)
  | (.error reason, s) => (.error (.request reason), s)

end ClientCall

end Acquisition
