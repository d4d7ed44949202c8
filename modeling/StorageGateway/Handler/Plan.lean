import StorageGateway.Http.Response
import StorageGateway.Service.Exchange

/-!
# Plans

A handler does not talk to the storage service itself. From the request alone it decides on a
plan: to answer at once, or to make one call about one storage and to answer when its outcome is
known. A plan is carried out by one function, so that every handler sends its token, follows
redirects, renews the token and reports faults in the same way, and none makes a second call.

## Main definitions

* `Inbound`: a request of a browser.
* `Plan`: what a handler decides.
* `Plan.run`: carrying a plan out.
-/

namespace StorageGateway

/-- A request of a browser. -/
structure Inbound where
  method : String := "GET"
  target : Bytes
  headers : Headers := []
  body : BodyStream := {}
  deriving DecidableEq, Repr

/-- How a handler goes on when it knows the outcome of its call. -/
abbrev Continuation := Except Fault Reply → Cookie.Jar → Cookie.Jar × Except Fault Response

/-- What a handler decides from the request alone. -/
inductive Plan where
  /-- The answer is known; the cookies may change with it. -/
  | answer (change : Cookie.Jar → Cookie.Jar) (outcome : Except Fault Response)
  /-- A call about a storage has to be made. -/
  | ask (storage : String) (call : Call) (next : Continuation)

namespace Plan

/-- The answer is known and no cookie changes. -/
def reply (outcome : Except Fault Response) : Plan := .answer id outcome

/-- A page. -/
def page (p : Html.Page) : Plan := reply (.ok (.page p))

/-- The request is refused. -/
def refuse (f : Fault) : Plan := reply (.error f)

/-- Makes a call; a fault is reported as it is, and `onReply` answers a success. -/
def forward (storage : String) (call : Call) (onReply : Reply → Except Fault Response) : Plan :=
  .ask storage call fun outcome jar => (jar, outcome.bind onReply)

end Plan

/-- What came of a request: the cookies, the answer, and the requests that the storage service
received. -/
structure Served where
  jar : Cookie.Jar
  outcome : Except Fault Response
  received : List Request := []

/-- Carries a plan out. -/
def Plan.run (backend : Backend) (service : Service) (jar : Cookie.Jar) : Plan → Served
  | .answer change outcome => ⟨change jar, outcome, []⟩
  | .ask storage call next =>
    match backend.request? jar storage call with
    | .error f =>
      let (jar, outcome) := next (.error f) jar
      ⟨jar, outcome, []⟩
    | .ok request =>
      let e := Exchange.send service request
      let result := Exchange.settle e.reply
      let (jar, outcome) := next result (Exchange.renew jar storage result)
      ⟨jar, outcome, e.received⟩

end StorageGateway
