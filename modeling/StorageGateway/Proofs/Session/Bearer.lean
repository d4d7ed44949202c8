import StorageGateway.Proofs.Session.Isolation
import StorageGateway.Proofs.Service.Call
import StorageGateway.Proofs.Service.Chain
import StorageGateway.Proofs.Service.Endpoint

/-!
# The token that a request bears

The storage that a request to the service names and the storage whose token it bears are found in
two ways, through the parameters of a call and through the name of a cookie, and are the same one.
All requests of a chain bear this token and nothing else; no other cookie has a part in them. A
token that cannot be written into a header keeps every request from being sent.

Only a storage that has a name has a token. A path may leave the name out, as `//` does: then the
service is asked about the empty name, without a token.

## Main definitions

* `Session.IsToken`: the token of a storage in a jar.
* `Request.Bears`: requests that bear the token of a storage and nothing else.
* `Action.refusal`: the answer when a call cannot be made.

## Main results

* `Gateway.requests_bear_own_token`: the requests that a request gives rise to.
-/

namespace StorageGateway

open Cookie

/-- The token of a storage in a jar: a value of its cookie that is not empty. -/
def Session.IsToken (jar : Jar) (storage token : String) : Prop :=
  ∃ name, cookieName? storage = some name ∧ jar.value? name = some token ∧ token ≠ ""

theorem Session.token?_eq_some_iff {jar : Jar} {storage token : String} :
    token? jar storage = some token ↔ IsToken jar storage token := by
  rw [token?, Option.filter_eq_some_iff, Option.bind_eq_some_iff]
  constructor
  · rintro ⟨⟨name, hname, hvalue⟩, hne⟩
    exact ⟨name, hname, hvalue, by simpa using hne⟩
  · rintro ⟨name, hname, hvalue, hne⟩
    exact ⟨⟨name, hname, hvalue⟩, by simpa using hne⟩

/-- A request that bears the token of a storage, if there is one, and nothing else. -/
structure Request.Bears (jar : Jar) (storage : String) (r : Request) : Prop where
  token : ∀ t, Session.IsToken jar storage t →
    r.authorization = [Bytes.ofAscii "Bearer " ++ Utf8.ofString t]
  none : (∀ t, ¬Session.IsToken jar storage t) → r.authorization = []

theorem Request.bears_of_authorization {jar : Jar} {storage : String} {r : Request}
    (h : r.authorization = ((Session.token? jar storage).map bearerAuthorization).toList) :
    r.Bears jar storage := by
  constructor
  · intro t ht
    rw [h, Session.token?_eq_some_iff.mpr ht]
    rfl
  · intro hnone
    have htoken : Session.token? jar storage = Option.none := by
      rw [Option.eq_none_iff_forall_ne_some]
      exact fun t ht => hnone t (Session.token?_eq_some_iff.mp ht)
    rw [h, htoken]
    rfl

/-! ### The calls of an action -/

/-- The parameters of the request that carries a call. -/
theorem Call.IsAbout.parameters {storage : String} {action : Action} {call : Call}
    (h : call.IsAbout storage action) (hupload : action ≠ .within .upload) (b : Backend)
    (address : Url) (token : Option String) :
    ((b.requestTo address call token).parameters address).filter (·.1 == "storage") =
      [("storage", storage)] := by
  cases h with
  | get _ _ hnames =>
    rw [b.parameters_requestTo_get]
    exact hnames
  | postForm _ _ hnames =>
    rw [b.parameters_requestTo_postForm]
    exact hnames
  | postFiles _ h => exact absurd h hupload

/-- The answer when a call cannot be made: the form again where a token is asked for, and a report
otherwise. -/
def Action.refusal (action : Action) (storage : String) : Except Fault Response :=
  let fault : Fault := ⟨.internal, "make request"⟩
  if action.asksToken then .ok (.page (Account.retryForm action storage fault)) else .error fault

theorem Sequel.Suits.outcome_refused {storage : String} {action : Action} {sequel : Sequel}
    (h : sequel.Suits storage action) :
    sequel.outcome storage (.error Cause.requestUnwritable.fault) = action.refusal storage := by
  cases h with
  | present hnot => simp only [Action.refusal, hnot]; rfl
  | enter htoken => simp only [Action.refusal, htoken, if_true]; rfl

/-! ### Errands that make a call -/

/-- An errand makes one call or sends nothing. -/
theorem Errand.Suits.silent_or_ask {storage : String} {action : Action} {e : Errand}
    (h : e.Suits storage action) :
    (∀ b service token held, (e.settle b service storage token held).received = []) ∨
      ∃ call sequel, e = .ask call sequel ∧ call.IsAbout storage action ∧
        sequel.Suits storage action := by
  cases h with
  | answer => exact .inl fun _ _ _ _ => rfl
  | forget => exact .inl fun _ _ _ _ => rfl
  | ask _ habout hsuits => exact .inr ⟨_, _, rfl, habout, hsuits⟩

/-! ### All requests -/

namespace Gateway

variable {o : Options} {g : Gateway} {req : Inbound} {action : Action} {storage : String}

/-- The address that an action asks, if it has one, has no user name if the base URL has none. -/
theorem exists_address (hbase : o.baseUrl = .ok g.backend.base)
    (huser : g.backend.base.user? = none) (hread : g.backend.base.isReadable = true)
    {endpoint : String} (hasked : action.endpoint? = some endpoint) :
    ∃ address, Backend.endpoint? g.backend.base endpoint = .ok address ∧
      address.hasHost = true ∧ address.user? = none := by
  obtain ⟨address, haddress, -, hauthority, hhost⟩ :=
    Backend.exists_endpoint? hbase hread (Action.isPrinted_endpoint hasked)
  exact ⟨address, haddress, hhost, (Url.user?_congr hauthority).trans huser⟩

/-- Every request that is received bears the token of the storage that it names. -/
theorem bears_of_received {call : Call} {address : Url} (huser : address.user? = none)
    {service : Service} {jar : Jar} (habout : call.IsAbout storage action) {first : Request}
    {rest : List Request}
    (h : (Exchange.send service (g.backend.requestTo address call
      (Session.token? jar storage))).received = first :: rest) :
    (∀ r ∈ first :: rest, r.Bears jar storage ∧ Exchange.sameOrigin r.url first.url = true) ∧
      (action ≠ .within .upload →
        (first.parameters address).filter (·.1 == "storage") = [("storage", storage)]) := by
  obtain ⟨rfl, hlinks⟩ := Exchange.received_send h
  refine ⟨fun r hr => ⟨Request.bears_of_authorization ?_, (hlinks r hr).origin⟩, fun hupload =>
    habout.parameters hupload g.backend address _⟩
  rw [(hlinks r hr).authorization, Backend.authorization_requestTo huser]

/-- A request about a storage leads to no call, whatever its cookies are, or to one call, which is
sent with the token of the storage or refused because of it. -/
theorem silent_or_call (hbase : o.baseUrl = .ok g.backend.base)
    (huser : g.backend.base.user? = none) (h : subject? req = some (action, storage)) :
    (∀ (service : Service) (other : Inbound), other.withoutCookies = req.withoutCookies →
      (g.serve service other).2 = []) ∨
    ∃ call address, call.IsAbout storage action ∧
      Backend.endpoint? g.backend.base call.endpoint = .ok address ∧ address.user? = none ∧
      ∀ service, if Backend.canBear (Session.token? req.jar storage) then
        (g.serve service req).2 = (Exchange.send service
          (g.backend.requestTo address call (Session.token? req.jar storage))).received
      else g.serve service req = (g.respond req.method [] (action.refusal storage), []) := by
  obtain ⟨e, hsuits, -, hserve⟩ := g.serve_subject h
  rcases hsuits.silent_or_ask with hsilent | ⟨call, sequel, rfl, habout, hsequel⟩
  · refine .inl fun service other halike => ?_
    rw [hserve service other halike]
    exact hsilent _ _ _ _
  · by_cases hread : g.backend.base.isReadable = true
    case neg =>
      have hnone := Backend.endpoint?_of_baseUrl hbase
        (Action.isPrinted_endpoint habout.endpoint_eq)
      rw [if_neg hread] at hnone
      refine .inl fun service other halike => ?_
      rw [hserve service other halike, answer, Backend.received_ask_of_error hnone]
    obtain ⟨address, haddress, hhost, hnone⟩ := exists_address hbase huser hread habout.endpoint_eq
    refine .inr ⟨call, address, habout, haddress, hnone, fun service => ?_⟩
    rw [hserve service req rfl, Backend.settle_ask haddress hhost]
    by_cases hbear : Backend.canBear (Session.token? req.jar storage) = true
    · rw [if_pos hbear, if_pos hbear]
      rfl
    · rw [if_neg hbear, if_neg hbear, hsequel.outcome_refused, answer, Session.marks_none]

/-- No confused deputy. What is sent is about one storage, bears the token of this storage and no
other cookie, and names it. A token that cannot be written is reported instead. -/
theorem requests_bear_own_token (hbase : o.baseUrl = .ok g.backend.base)
    (huser : g.backend.base.user? = none) (service : Service) (req : Inbound) :
    ((g.serve service req).2 ≠ [] → ∃ action storage, subject? req = some (action, storage)) ∧
    ∀ action storage, subject? req = some (action, storage) →
      (∀ first rest, (g.serve service req).2 = first :: rest →
        (∀ r ∈ first :: rest,
          r.Bears req.jar storage ∧ Exchange.sameOrigin r.url first.url = true) ∧
        (action ≠ .within .upload → ∃ endpoint address, action.endpoint? = some endpoint ∧
          Backend.endpoint? g.backend.base endpoint = .ok address ∧
          (first.parameters address).filter (·.1 == "storage") = [("storage", storage)])) ∧
      (∀ other : Inbound, other.withoutCookies = req.withoutCookies →
        (∀ name, Session.cookieName? storage = some name →
          other.jar.value? name = req.jar.value? name) →
        (g.serve service other).2 = (g.serve service req).2) ∧
      ∀ t, Session.IsToken req.jar storage t → Header.isWritable (Utf8.ofString t) = false →
        (g.serve service req).2 = [] ∧
        ∀ (other : Inbound) (script : Service), other.withoutCookies = req.withoutCookies →
          (g.serve script other).2 ≠ [] →
          (g.serve service req).1 = g.respond req.method [] (action.refusal storage) := by
  refine ⟨fun hsent => ?_, fun action storage h => ?_⟩
  · cases hsubject : subject? req with
    | none => exact absurd (g.serve_no_subject hsubject service).1 hsent
    | some subject => exact ⟨subject.1, subject.2, rfl⟩
  refine ⟨fun first rest hsent => ?_, fun other halike hcookie => ?_, fun t htoken hbad => ?_⟩
  · rcases silent_or_call hbase huser h with
      hsilent | ⟨call, address, habout, haddress, hnone, hcall⟩
    · rw [hsilent service req rfl] at hsent
      cases hsent
    · have hreceived := hcall service
      by_cases hbear : Backend.canBear (Session.token? req.jar storage) = true
      · rw [if_pos hbear, hsent] at hreceived
        obtain ⟨hbears, hnames⟩ := bears_of_received hnone habout hreceived.symm
        exact ⟨hbears, fun hupload =>
          ⟨call.endpoint, address, habout.endpoint_eq, haddress, hnames hupload⟩⟩
      · rw [if_neg hbear] at hreceived
        rw [hreceived] at hsent
        cases hsent
  · rw [g.serve_congr h halike hcookie]
  · have hbear : ¬Backend.canBear (Session.token? req.jar storage) = true := by
      rw [Session.token?_eq_some_iff.mpr htoken, Backend.canBear_some, hbad]
      exact Bool.false_ne_true
    rcases silent_or_call hbase huser h with hsilent | ⟨call, address, -, -, -, hcall⟩
    · exact ⟨hsilent service req rfl, fun other script halike hsent =>
        absurd (hsilent script other halike) hsent⟩
    · have hrefused := hcall service
      rw [if_neg hbear] at hrefused
      rw [hrefused]
      exact ⟨rfl, fun _ _ _ _ => rfl⟩

/-- A listing is asked for with the token of its storage, and not with that of another one. -/
theorem requests_bear_own_token_view :
    let o : Options := { gateway := "http://s/" }
    let g : Gateway :=
      ⟨⟨⟨"http", some { host := .domain "s" }, .segments [""], none, none⟩, []⟩, ⟨60, false⟩, 0⟩
    let req : Inbound :=
      { target := Bytes.ofAscii "/a/", headers := [.ofText "cookie" "fs_b=u; fs_a=t"] }
    o.baseUrl = .ok g.backend.base ∧ g.backend.base.user? = none ∧
      ∃ first rest, (g.serve (.scripted []) req).2 = first :: rest ∧
        first.authorization = [Bytes.ofAscii "Bearer t"] := by
  intro o g req
  have hbase : o.baseUrl = .ok g.backend.base := by decide +kernel
  have huser : g.backend.base.user? = none := by decide +kernel
  have hsubject : subject? req = some (.within .view, "a") := by decide +kernel
  have htoken : Session.IsToken req.jar "a" "t" :=
    Session.token?_eq_some_iff.mp (by decide +kernel)
  have hsent : (g.serve (.scripted []) req).2 ≠ [] := by decide +kernel
  obtain ⟨first, rest, hcons⟩ := List.exists_cons_of_ne_nil hsent
  have hbears :=
    ((requests_bear_own_token hbase huser (.scripted []) req).2 _ _ hsubject).1 _ _ hcons
  exact ⟨hbase, huser, first, rest, hcons,
    ((hbears.1 first List.mem_cons_self).1.token "t" htoken).trans (by decide)⟩

/-- A path may leave the name of the storage out, and the service is asked all the same. -/
theorem nameless_storage_is_asked :
    let g : Gateway :=
      ⟨⟨⟨"http", some { host := .domain "s" }, .segments [""], none, none⟩, []⟩, ⟨60, false⟩, 0⟩
    let req : Inbound := { target := Bytes.ofAscii "//" }
    (g.serve (.scripted []) req).2 ≠ [] ∧
      ¬∃ action storage, storage ≠ "" ∧ subject? req = some (action, storage) := by
  intro g req
  have hsubject : subject? req = some (.within .view, "") := by decide +kernel
  refine ⟨by decide +kernel, fun ⟨action, storage, hne, h⟩ => hne ?_⟩
  rw [hsubject] at h
  exact (Prod.mk.inj (Option.some.inj h)).2.symm

end Gateway

end StorageGateway
