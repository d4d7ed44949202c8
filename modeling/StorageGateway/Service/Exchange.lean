import StorageGateway.Service.Call

/-!
# Exchanges with the storage service

A call is answered by one reply or by none. Replies that point to another place are followed a
limited number of times, so that a call gives rise to a chain of requests; only the last reply
counts. Requests that carry files are not sent a second time. The service itself appears here as
the list of what it delivers, one delivery for each request. It is assumed to be the only one that
can be reached: where a reply points to another origin, nobody answers.

## Main definitions

* `Reply`, `Delivery`, `Service`.
* `Exchange.follow`: the chain of requests that starts with one.
* `Exchange.settle`: what the last reply means, and the token that it brings.
-/

namespace StorageGateway

/-- A reply of the storage service. -/
structure Reply where
  status : Nat
  headers : Headers := []
  body : Bytes := []
  /-- The length that the reply announces for its body. -/
  length : Option Nat := none
  /-- Whether the body arrives to its end. -/
  isWhole : Bool := true
  deriving DecidableEq, Repr

/-- What a request gets. -/
inductive Delivery where
  | reply (r : Reply)
  /-- The connection ends without a reply. -/
  | lost
  deriving DecidableEq, Repr

/-- The storage service as seen from here. Requests to any other origin are assumed to reach nobody,
so that no delivery is about them. -/
inductive Service where
  /-- No request reaches it. -/
  | unreachable
  /-- It answers the requests one after another, and none after the last delivery. -/
  | scripted (deliveries : List Delivery)
  deriving DecidableEq, Repr

/-- What came of a request or a chain of them: the requests that the service received, in order,
and the last reply. -/
structure Exchange where
  received : List Request
  reply : Option Reply
  deriving DecidableEq, Repr

namespace Exchange

/-- The largest number of times that a reply is followed to another place. -/
def maxRedirects : Nat := 10

/-- The request that asks at another place. After a redirect of the older kind only a question is
asked, without a body. `none` when the request cannot be sent again. -/
def redirected? (status : Nat) (req : Request) (url : Url) : Option Request :=
  if status = 301 ∨ status = 302 ∨ status = 303 then
    some { req with
      method := if req.method = "HEAD" then "HEAD" else "GET"
      url, contentType := none, body := none, isRepeatable := true }
  else if status = 307 ∨ status = 308 then
    if req.isRepeatable then some { req with url } else none
  else none

/-- Whether two URLs lead to the same place of the network. -/
def sameOrigin (u v : Url) : Bool :=
  u.scheme == v.scheme && u.authority.map (·.host) == v.authority.map (·.host) &&
    u.authority.bind (·.port) == v.authority.bind (·.port)

/-- The place that a reply points to. A text that is not UTF-8 names no place. -/
def location? (r : Reply) : Option Bytes :=
  (r.headers.first? "location").filter fun location => (Utf8.decode? location).isSome

/-- The request that a reply asks for; `none` when the reply is final. -/
def next? (req : Request) (r : Reply) : Option Request :=
  (location? r).bind fun location =>
    match Url.resolve req.url location with
    | .ok url => redirected? r.status req url
    | .error _ => none

/-- Sends a request and follows the replies, at most `allowance` times. A redirect to another origin
gets no reply, as the service is the only one that can be reached. -/
def follow (allowance : Nat) (req : Request) : List Delivery → Exchange
  | [] | .lost :: _ => ⟨[req], none⟩
  | .reply r :: deliveries =>
    match next? req r, allowance with
    | none, _ => ⟨[req], some r⟩
    | some _, 0 => ⟨[req], none⟩
    | some next, allowance + 1 =>
      if sameOrigin next.url req.url then
        let e := follow allowance next deliveries
        ⟨req :: e.received, e.reply⟩
      else ⟨[req], none⟩

/-- Sends a request to the service. -/
def send (service : Service) (req : Request) : Exchange :=
  match service with
  | .unreachable => ⟨[], none⟩
  | .scripted deliveries => follow maxRedirects req deliveries

/-- The fault that the body of a report describes. -/
def reported (r : Reply) : Fault :=
  if !r.isWhole then Cause.reportUnreadable.fault
  else (Fault.parse? r.body).getD Cause.reportMalformed.fault

/-- What a reply means: a success, the report of a fault, or nothing that is understood. -/
def settle : Option Reply → Except Fault Reply
  | none => .error Cause.noReply.fault
  | some r =>
    if r.status = 200 then .ok r
    else if r.status = 400 then .error (reported r)
    else .error Cause.unexpectedStatus.fault

/-- The token that a successful reply brings along. -/
def freshToken? (r : Reply) : Option String :=
  ((r.headers.first? "x-token").bind Header.text?).filter fun token => !token.isEmpty

/-- The jar after a call about a storage: a successful reply may renew the token. -/
def renew (jar : Cookie.Jar) (storage : String) : Except Fault Reply → Cookie.Jar
  | .ok r => ((freshToken? r).map (Session.store jar storage)).getD jar
  | .error _ => jar

end Exchange

end StorageGateway
