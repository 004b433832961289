import EvidenceRank.Error
import EvidenceRank.Json.Value
import EvidenceRank.Url.Reader

/-!
# Requests over HTTP

A service is asked by posting a document to a URL (`rerank`, `send`). A `Request` is what a service
is asked for; a `Call` is a request that can be sent. A `Transport` carries a call to the service
and tells what came back. A request that makes no call never reaches the transport.

* `Request.call`: the call of a request, or the wording of the reason why there is none.
* `post`: the body of a successful answer.
-/

namespace EvidenceRank.Service

structure Request where
  url : String
  /-- Headers besides the content type. -/
  headers : List (String × String)
  body : Json

structure Call where
  url : Url
  login : Option Url.Login
  /-- Headers besides the content type. -/
  headers : List (String × String)
  body : Json

/-! ## Making calls -/

/-- The reason when a request cannot be built. -/
def builderMessage : String := "builder error"

/-- The reason when a request cannot be built for its URL. -/
def refusedUrlMessage (url : Url) : String := s!"{builderMessage} for url ({url.text})"

/-- The text may stand as the value of a header. -/
def isHeaderValue (value : String) : Bool :=
  value.toList.all fun c => (0x20 ≤ c.toNat && c.toNat != 0x7F) || c == '\t'

/-- The characters that may stand in a host, but not in the address of a call. -/
def isRefusedInHost (c : Char) : Bool := ['"', '\x60', '\x7b', '\x7d'].contains c

/-- The longest address of a call in bytes. -/
def longestAddress : Nat := 65534

/-- A call may go to the URL. -/
def isCallable (url : Url) : Bool :=
  (url.scheme == "http" || url.scheme == "https")
    && !url.place.toList.any isRefusedInHost && url.text.utf8ByteSize ≤ longestAddress

/-- The call of a request, or the wording of the reason why there is none. -/
def Request.call (r : Request) : Except String Call :=
  match Url.parse? r.url with
  | none => .error builderMessage
  | some url =>
    if !url.hasHost then .error (refusedUrlMessage url)
    else if !r.headers.all fun (_, v) => isHeaderValue v then .error builderMessage
    else
      let (url, login) := url.takeLogin
      if isCallable url then .ok { url, login, headers := r.headers, body := r.body }
      else .error (refusedUrlMessage url)

/-! ## Deliveries -/

/-- What came of carrying a call. -/
inductive Delivery where
  /-- No answer: the wording of the reason. -/
  | failed (reason : String)
  /-- A complete answer. -/
  | answered (status : Nat) (body : String)
  /-- An answer that broke off in its body: the wording of the reason. -/
  | brokenOff (status : Nat) (reason : String)

/-- A transport whose deliveries are actions of `m`. -/
structure Transport (m : Type → Type) where
  deliver : Call → m Delivery

/-- The reason when a call finds nobody who listens. -/
def unreachableMessage (url : Url) : String := s!"error sending request for url ({url.text})"

variable {m : Type → Type} [Monad m]

/-- The transport of a host on which nobody listens. -/
def Transport.unreachable : Transport m := ⟨fun c => return .failed (unreachableMessage c.url)⟩

/-- Post a request and return the body of a successful answer. -/
def post (transport : Transport m) (service : Service) (request : Request) :
    ExceptT ServiceError m String := do
  match request.call with
  | .error reason => throw (.requestFailed service request.url reason)
  | .ok call =>
    match ← transport.deliver call with
    | .failed reason => throw (.requestFailed service request.url reason)
    | .answered status body =>
      if 200 ≤ status && status < 300 then return body
      else throw (.unexpectedStatus service status body)
    | .brokenOff status reason =>
      if 200 ≤ status && status < 300 then throw (.requestFailed service request.url reason)
      else throw (.unexpectedStatus service status "")

end EvidenceRank.Service
