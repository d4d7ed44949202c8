import StorageGateway.Handler.Account
import StorageGateway.Proofs.Session.Mark

/-!
# Errands

Seen from one storage, a plan is an errand of one of three sorts: to give an answer that is known,
to forget the token, or to make one call, whose success is either shown or taken as the token. How
an errand ends depends on the cookies of the request in two points only: the token of the storage
and whether the cookie that holds it was carried. What it does to the jar is a mark on that one
cookie.

## Main definitions

* `Errand`, `Sequel`, `Errand.plan`: the plan that an errand stands for.
* `Backend.exchange?`: a call with a token and the replies to it.
* `Settlement`, `Errand.settle`: how an errand ends.

## Main results

* `Plan.run_errand`: carrying an errand out.
-/

namespace StorageGateway

open Cookie

/-! ### Calls with a token -/

namespace Backend

/-- The request that carries a call with a token. -/
def requestWith? (b : Backend) (token : Option String) (call : Call) : Except Fault Request := do
  let address ← endpoint? b.base call.endpoint
  let token := token.map bearerAuthorization
  if !address.hasHost || !(token.map Header.isWritable).getD true then
    throw Cause.requestUnwritable.fault
  let user := address.user?
  let url := (if user.isSome then address.withoutUser else address).addQuery call.query
  let request := call.payload.request b.boundary call.method url
  return { request with
    authorization := (user.map basicAuthorization).toList ++ token.toList }

/-- The jar matters for the token of the storage only. -/
theorem request?_eq (b : Backend) (jar : Jar) (storage : String) (call : Call) :
    b.request? jar storage call = b.requestWith? (Session.token? jar storage) call := rfl

/-- A call with a token and what came of sending it. -/
def exchange? (b : Backend) (service : Service) (token : Option String) (call : Call) :
    Except Fault Exchange :=
  (b.requestWith? token call).map (Exchange.send service)

end Backend

/-! ### Errands -/

/-- How a storage's errand goes on after its call. -/
inductive Sequel where
  /-- A success is shown, a fault is reported. -/
  | present (onReply : Reply → Except Fault Response)
  /-- A success is the token; for a fault the form is shown again. -/
  | enter (form : Fault → Html.Page)

/-- What a plan is about, seen from its storage. -/
inductive Errand where
  /-- The answer is known. -/
  | answer (outcome : Except Fault Response)
  /-- The answer is known, and the token is forgotten. -/
  | forget (outcome : Except Fault Response)
  /-- A call has to be made. -/
  | ask (call : Call) (sequel : Sequel)

/-- How an errand ends: the mark on the cookie of its storage, the answer, and the requests that
the storage service received. -/
structure Settlement where
  mark : Option Change
  outcome : Except Fault Response
  received : List Request := []

namespace Sequel

/-- The continuation that a sequel stands for. -/
def continuation (storage : String) : Sequel → Continuation
  | .present onReply => fun result jar => (jar, result.bind onReply)
  | .enter form => Account.acceptOrShow storage form

/-- The mark that the result of the call leaves. -/
def mark : Sequel → Except Fault Reply → Option Change
  | _, .error _ => none
  | .present _, .ok r => (Exchange.freshToken? r).map .store
  | .enter _, .ok r =>
    if r.isWhole then some (.store (Utf8.toStringLossy r.body))
    else (Exchange.freshToken? r).map .store

@[simp] theorem mark_error (sequel : Sequel) (f : Fault) : sequel.mark (.error f) = none := by
  cases sequel <;> rfl

/-- The answer that the result of the call leads to. -/
def outcome (storage : String) : Sequel → Except Fault Reply → Except Fault Response
  | .present onReply, result => result.bind onReply
  | .enter _, .ok r =>
    if r.isWhole then Response.found? (Account.storageAddress storage)
    else .error Cause.tokenUnreadable.fault
  | .enter form, .error f => .ok (.page (form f))

/-- A renewed token and the token of a login are one mark. -/
theorem continuation_renew (sequel : Sequel) (storage : String) {jar : Jar}
    (hjar : jar.changes = []) (result : Except Fault Reply) :
    sequel.continuation storage result (Exchange.renew jar storage result) =
      (Session.marked jar storage (sequel.mark result), sequel.outcome storage result) := by
  cases result with
  | error f =>
    rw [mark_error, Session.marked_none hjar]
    cases sequel <;> rfl
  | ok r =>
    have hrenew : Exchange.renew jar storage (.ok r) =
        Session.marked jar storage ((Exchange.freshToken? r).map .store) := by
      cases hfresh : Exchange.freshToken? r with
      | none => simp [Exchange.renew, hfresh, Session.marked_none hjar]
      | some token =>
        have hstore := Session.store_marked jar storage token none
        rw [Session.marked_none hjar] at hstore
        simpa [Exchange.renew, hfresh] using hstore
    rw [hrenew]
    cases sequel with
    | present onReply => rfl
    | enter form =>
      by_cases hwhole : r.isWhole
      · simp only [continuation, Account.acceptOrShow, Account.acceptToken, hwhole, if_true,
          Session.store_marked, mark, outcome]
      · simp only [continuation, Account.acceptOrShow, Account.acceptToken, hwhole, if_false, mark,
          outcome, Bool.false_eq_true]

end Sequel

namespace Errand

/-- The plan that an errand of a storage stands for. -/
def plan (storage : String) : Errand → Plan
  | .answer outcome => .reply outcome
  | .forget outcome => .answer (fun jar => Session.clear jar storage) outcome
  | .ask call sequel => .ask storage call (sequel.continuation storage)

/-- How an errand ends, given the token of the storage and whether its cookie was carried. -/
def settle (b : Backend) (service : Service) (storage : String) (token : Option String)
    (held : Bool) : Errand → Settlement
  | .answer outcome => ⟨none, outcome, []⟩
  | .forget outcome => ⟨if held then some .expire else none, outcome, []⟩
  | .ask call sequel =>
    match b.exchange? service token call with
    | .error f => ⟨sequel.mark (.error f), sequel.outcome storage (.error f), []⟩
    | .ok e =>
      let result := Exchange.settle e.reply
      ⟨sequel.mark result, sequel.outcome storage result, e.received⟩

end Errand

/-- Carrying an errand out changes nothing but the mark on one cookie. -/
theorem Plan.run_errand (b : Backend) (service : Service) (storage : String) {jar : Jar}
    (hjar : jar.changes = []) (e : Errand) :
    (e.plan storage).run b service jar =
      let s := e.settle b service storage (Session.token? jar storage)
        (Session.isHeld jar storage)
      ⟨Session.marked jar storage s.mark, s.outcome, s.received⟩ := by
  cases e with
  | answer outcome =>
    change Served.mk jar outcome [] = ⟨Session.marked jar storage none, outcome, []⟩
    rw [Session.marked_none hjar]
  | forget outcome =>
    have hclear := Session.clear_marked jar storage
    rw [Session.marked_none hjar] at hclear
    change Served.mk (Session.clear jar storage) outcome [] = ⟨Session.marked jar storage
      (if Session.isHeld jar storage then some .expire else none), outcome, []⟩
    rw [hclear]
  | ask call sequel =>
    unfold Errand.plan Plan.run Errand.settle Backend.exchange?
    dsimp only
    rw [Backend.request?_eq]
    cases b.requestWith? (Session.token? jar storage) call with
    | error f =>
      have hrefused := sequel.continuation_renew storage hjar (.error f)
      rw [Exchange.renew] at hrefused
      simp only [hrefused, Except.map]
    | ok request => simp only [Except.map, sequel.continuation_renew storage hjar]

end StorageGateway
