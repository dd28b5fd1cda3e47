import Acquisition.Client.Http

/-!
# What calls can fail with

A call to a client is made of steps, and fails as one of its steps does.  So a call fails with an
error only if one of its steps can.

## Main definitions

* `ClientCall.Spares`: the call may fail, but never with the error.
-/

namespace Acquisition

namespace ClientCall

variable {σ α β : Type} {error : ClientError}

/-- The call may fail, but never with the error. -/
def Spares (error : ClientError) (call : ClientCall σ α) : Prop :=
  ∀ s, (call s).1 ≠ .error error

theorem spares_done {outcome : Except ClientError α} (h : outcome ≠ .error error) :
    Spares error (done outcome : ClientCall σ α) :=
  fun _ => h

/-- **A call fails with an error only if one of its steps can.** -/
theorem Spares.andThen {call : ClientCall σ α} {next : α → ClientCall σ β}
    (hcall : Spares error call) (hnext : ∀ a, Spares error (next a)) :
    Spares error (ClientCall.andThen call next) := by
  intro s
  rw [ClientCall.andThen]
  have hfirst := hcall s
  match hanswer : call s with
  | (.ok a, s') => exact hnext a s'
  | (.error fault, s') =>
    rw [hanswer] at hfirst
    intro h
    exact hfirst (congrArg Except.error (Except.error.inj h))

/-- A request fails for want of a response, or with the failure that the response reports. -/
theorem spares_fetch (transport : Transport σ) (request : HttpRequest)
    (hrequest : ∀ reason, error ≠ .request reason)
    (hstatus : ∀ status body, error ≠ .httpStatus status body) :
    Spares error (fetch transport request) := by
  intro s
  rw [fetch]
  match transport request s with
  | (.ok response, s') =>
    show response.content ≠ _
    rw [HttpResponse.content]
    split
    · exact nofun
    · intro h
      exact hstatus _ _ (Except.error.inj h).symm
  | (.error reason, s') =>
    intro h
    exact hrequest reason (Except.error.inj h).symm

end ClientCall

end Acquisition
