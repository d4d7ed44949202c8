import StorageGateway.Proofs.Gateway.Calls
import StorageGateway.Proofs.Session.Operations

/-!
# Requests without a storage name

The handlers can be reached at addresses that name no storage. Such a request has no session: it
sends no token, its reply changes no cookie, it cannot log in, and the permanent area is out of
its reach. The service may still point to an address of the permanent area, and its own address
may be one, but the gateway adds nothing to that effect.

## Main definitions

* `permanentMark`, `Request.form`: the parameter of the permanent area, and where it may stand
  besides the query.
* `Gateway.plainAction?`: the action at an address without names.
* `Gateway.IsPermanentTwin`: the same request at the address of the permanent area.

## Main results

* `Exchange.IsChain.mem_cases`: where a request of a chain comes from.
* `Gateway.nameless_requests_are_unauthorised`: what comes of a request without names.
* `Gateway.permanent_area_is_told_from_outside`: where a word about the permanent area comes from.
-/

namespace StorageGateway

/-- The parameter of the permanent area. -/
def permanentMark : String × String := ("permanent", "true")

/-- The named values of the form that a request to the service carries, if it carries one. -/
def Request.form (r : Request) : List (String × String) :=
  if r.contentType = some (Bytes.ofAscii FormData.mediaType) then
    (r.body.map FormData.decode).getD []
  else []

/-! ### Chains -/

namespace Exchange

/-- A request of a chain is the first one, or the reply to another one led to it. -/
theorem IsChain.mem_cases {deliveries : List Delivery} {received : List Request}
    (h : IsChain deliveries received) {r : Request} (hr : r ∈ received) :
    received.head? = some r ∨
      ∃ prior ∈ received, ∃ reply, .reply reply ∈ deliveries ∧ LeadsTo prior reply r := by
  induction h with
  | none => cases hr
  | last => exact .inl (by rw [List.mem_singleton.mp hr]; rfl)
  | @link reply deliveries req next rest hleads htail ih =>
    rcases List.mem_cons.mp hr with rfl | hr
    · exact .inl rfl
    · rcases ih hr with hfirst | ⟨prior, hprior, reply', hreply', hleads'⟩
      · obtain rfl : next = r := by simpa using hfirst
        exact .inr ⟨req, List.mem_cons_self, reply, List.mem_cons_self, hleads⟩
      · exact .inr ⟨prior, List.mem_cons_of_mem _ hprior, reply',
          List.mem_cons_of_mem _ hreply', hleads'⟩

/-- A redirect repeats a form or drops it. -/
theorem LeadsTo.form_subset {req next : Request} {r : Reply} (h : LeadsTo req r next) :
    next.form ⊆ req.form := by
  cases h with
  | question => exact List.nil_subset _
  | again => exact List.Subset.refl _

/-- A chain carries no other form than that of its first request. -/
theorem IsChain.form_subset {deliveries : List Delivery} {first : Request} {rest : List Request}
    (h : IsChain deliveries (first :: rest)) {r : Request} (hr : r ∈ first :: rest) :
    r.form ⊆ first.form := by
  generalize hwhole : first :: rest = received at h hr
  induction h generalizing first rest with
  | none => cases hr
  | last =>
    cases hwhole
    rw [List.mem_singleton.mp hr]
    exact List.Subset.refl _
  | link hleads _ ih =>
    cases hwhole
    rcases List.mem_cons.mp hr with rfl | hr
    · exact List.Subset.refl _
    · exact List.Subset.trans (ih rfl hr) hleads.form_subset

end Exchange

/-! ### Plans without a name -/

namespace Scope

/-- The scope of a request that names nothing. -/
def nameless (flags : Flags) : Scope := { isPublic := flags.isPublic }

theorem ofCaptures_nil (flags : Flags) : ofCaptures flags [] = .ok (nameless flags) := rfl

end Scope

namespace Session

@[simp] theorem isHeld_empty (jar : Cookie.Jar) : isHeld jar "" = false := rfl

theorem marked_empty {jar : Cookie.Jar} (h : jar.changes = []) (mark : Option Cookie.Change) :
    marked jar "" mark = jar := by
  obtain ⟨carried, changes⟩ := jar
  cases h
  rfl

end Session

namespace Gateway

variable {g : Gateway} {flags : Scope.Flags} {req : Inbound} {action : StorageAction}

/-- No parameter of a call without a name is about the permanent area. -/
theorem permanentMark_notMem_parameters :
    permanentMark ∉ (Action.within action).parameters flags [] req := by
  cases action <;>
    simp [Action.parameters, Scope.Flags.values, permanentMark, Route.Captures.text?]

/-- The call of a plan without a name adds nothing about the permanent area. -/
theorem permanentMark_notMem_query {call : Call} (h : call.IsFor flags [] req (.within action)) :
    permanentMark ∉ call.query := by
  cases h with
  | question => exact permanentMark_notMem_parameters
  | order => exact List.not_mem_nil
  | files => exact List.not_mem_nil

/-- The form of a request without a name tells nothing about the permanent area. -/
theorem permanentMark_notMem_form {call : Call} (h : call.IsFor flags [] req (.within action))
    (b : Backend) (address : Url) : permanentMark ∉ (b.requestTo address call none).form := by
  cases h with
  | question => exact List.not_mem_nil
  | order =>
    change permanentMark ∉ FormData.decode (Bytes.ofAscii (FormData.encode _))
    rw [FormData.decode_encode]
    exact permanentMark_notMem_parameters
  | @files endpoint parts =>
    have hother : Bytes.ofAscii "multipart/form-data; boundary=" ++ b.boundary ≠
        Bytes.ofAscii FormData.mediaType := by
      intro hsame
      have hfirst := congrArg List.head? hsame
      have hfiles : (Bytes.ofAscii "multipart/form-data; boundary=").head? = some 0x6D := by decide
      rw [List.head?_append, hfiles, Option.some_or] at hfirst
      exact absurd hfirst (by decide)
    have hnone : (b.requestTo address (.postFiles endpoint parts) none).form = [] :=
      if_neg fun hform => hother (Option.some.inj hform)
    rw [hnone]
    exact List.not_mem_nil

/-- What comes of a plan without a name: no cookie is changed, and if the service receives
anything, then the call of the action without a token. -/
theorem run_nameless (g : Gateway) (service : Service) (flags : Scope.Flags) (req : Inbound)
    (action : StorageAction) :
    let served := (g.storagePlan (.nameless flags) req action).run g.backend service req.jar
    served.jar = req.jar ∧ Response.IsPlainOutcome served.outcome ∧
      (served.received = [] ∨ ∃ call address, call.IsFor flags [] req (.within action) ∧
        Backend.endpoint? g.backend.base call.endpoint = .ok address ∧
        served.received =
          (Exchange.send service (g.backend.requestTo address call none)).received) := by
  intro served
  obtain ⟨e, hsuits, hplan⟩ := isErrand_storagePlan g (.nameless flags) req action
  have hstorage : (Scope.nameless flags).storage = "" := rfl
  rw [hstorage] at hsuits hplan
  have hserved : served = ⟨req.jar, (e.settle g.backend service "" none false).outcome,
      (e.settle g.backend service "" none false).received⟩ := by
    have hrun := Plan.run_errand g.backend service "" req.changes_jar e
    rw [Session.token?_empty, Session.isHeld_empty] at hrun
    simp only [served, hplan, hrun, Session.marked_empty req.changes_jar]
  rw [hserved]
  refine ⟨rfl, hsuits.isPlain_settle _ _ _ _, ?_⟩
  cases e with
  | answer => exact .inl rfl
  | forget => exact .inl rfl
  | ask call sequel =>
    have hnames : (List.map Prod.fst ([] : Route.Captures)).Nodup := List.nodup_nil
    have hcall : call.IsFor flags [] req (.within action) :=
      (ask_within hnames (Scope.ofCaptures_nil flags) hplan).1
    cases hrequest : g.backend.requestWith? none call with
    | error f => exact .inl (by simp only [Errand.settle, Backend.exchange?, hrequest, Except.map])
    | ok request =>
      obtain ⟨address, haddress, rfl⟩ := Backend.exists_address_of_requestWith? hrequest
      refine .inr ⟨call, address, hcall, haddress, ?_⟩
      simp only [Errand.settle, Backend.exchange?, hrequest, Except.map]

/-! ### What the service receives -/

/-- The authorization by a user name is no token. -/
theorem not_bearer_basicAuthorization (user : String × Option String) :
    ¬Bytes.ofAscii "Bearer" <+: basicAuthorization user := by
  intro h
  have hbasic : Bytes.ofAscii "Basic " <+: basicAuthorization user := List.prefix_append _ _
  exact absurd (List.prefix_of_prefix_length_le h hbasic (by decide)) (by decide)

/-- Neither a token nor a word about the permanent area goes along with a call without a name,
unless the address of the endpoint or a reply of the service brings it in. -/
theorem received_nameless {service : Service} {call : Call} {address : Url}
    (hcall : call.IsFor flags [] req (.within action)) {r : Request}
    (hr : r ∈ (Exchange.send service (g.backend.requestTo address call none)).received) :
    (∀ value ∈ r.authorization, ¬Bytes.ofAscii "Bearer" <+: value) ∧ permanentMark ∉ r.form ∧
      (permanentMark ∈ r.url.parameters → permanentMark ∈ address.parameters ∨
        ∃ prior ∈ (Exchange.send service (g.backend.requestTo address call none)).received,
          ∃ reply, .reply reply ∈ service.deliveries ∧ Exchange.LeadsTo prior reply r) := by
  obtain ⟨hchain, -⟩ := Exchange.isChain_send service (g.backend.requestTo address call none)
  obtain ⟨first, rest, hreceived⟩ := List.exists_cons_of_ne_nil (List.ne_nil_of_mem hr)
  obtain ⟨rfl, hlinks⟩ := Exchange.received_send hreceived
  rw [hreceived] at hr hchain ⊢
  refine ⟨fun value hvalue => ?_, fun hmem => ?_, fun hurl => ?_⟩
  · have hown : r.authorization = (address.user?.map basicAuthorization).toList := by
      rw [(hlinks r hr).authorization, Backend.requestTo]
      exact List.append_nil _
    rw [hown, Option.mem_toList] at hvalue
    obtain ⟨user, -, rfl⟩ := Option.map_eq_some_iff.mp hvalue
    exact not_bearer_basicAuthorization user
  · exact permanentMark_notMem_form hcall g.backend address (hchain.form_subset hr hmem)
  · rcases hchain.mem_cases hr with hfirst | hled
    · obtain rfl := Option.some.inj hfirst
      rw [Backend.parameters_requestTo, List.mem_append] at hurl
      exact .inl (hurl.resolve_right (permanentMark_notMem_query hcall))
    · exact .inr hled

/-! ### Addresses without names -/

/-- The action at an address without names, with the flags of its route. -/
def plainAction? (req : Inbound) : Option (Action × Scope.Flags) :=
  (route? Route.plainTable req).bind fun (r, _) =>
    (r.action? req.method).map fun action => (action, r.flags)

theorem names_plainTable : ∀ r ∈ Route.plainTable, Route.Pattern.names r.pattern = [] := by decide

/-- An address without names captures nothing. -/
theorem captures_eq_nil {r : Route} {captures : Route.Captures}
    (h : route? Route.plainTable req = some (r, captures)) :
    r ∈ Route.plainTable ∧ captures = [] := by
  obtain ⟨hmem, hmatch⟩ := Route.select?_eq_some h
  have hnames := Route.names_matchSegments? hmatch
  rw [names_plainTable r hmem] at hnames
  exact ⟨hmem, List.map_eq_nil_iff.mp hnames⟩

/-- All that is done there is about a storage. -/
theorem exists_storageAction {r : Route} (hr : r ∈ Route.plainTable) {method : String}
    {action : Action} (h : r.action? method = some action) : ∃ a, action = .within a := by
  have habout : ∃ pattern flags get post, r = Route.about pattern flags get post := by
    simp only [Route.plainTable, List.mem_cons, List.not_mem_nil, or_false] at hr
    rcases hr with h | h | h | h | h | h | h | h | h | h | h <;> exact ⟨_, _, _, _, h⟩
  obtain ⟨pattern, flags, get, post, rfl⟩ := habout
  rcases Route.action?_eq_some h with h | h
  · obtain ⟨a, -, ha⟩ := Option.map_eq_some_iff.mp h
    exact ⟨a, ha.symm⟩
  · obtain ⟨a, -, ha⟩ := Option.map_eq_some_iff.mp h
    exact ⟨a, ha.symm⟩

/-- The answer of a plan whose outcome and cookie changes are known. -/
def respondPlain (g : Gateway) (method : String) (served : Served) : Response × List Request :=
  (((Response.ofOutcome served.outcome).addHeaders
    (Cookie.Jar.setCookies g.cookies served.jar)).finish (method = "HEAD"), served.received)

/-- A request at an address without names is answered by the plan of its action, or turned away
without a call. -/
theorem servePlain_cases (g : Gateway) (service : Service) (req : Inbound) :
    (∃ action flags, plainAction? req = some (.within action, flags) ∧
      g.servePlain service req = g.respondPlain req.method
        ((g.storagePlan (.nameless flags) req action).run g.backend service req.jar)) ∨
    plainAction? req = none ∧ (g.servePlain service req).2 = [] ∧
      (g.servePlain service req).1.headers.all "set-cookie" = [] := by
  cases hroute : route? Route.plainTable req with
  | none =>
    refine .inr ⟨by rw [plainAction?, hroute]; rfl, ?_⟩
    rw [servePlain, hroute]
    exact ⟨rfl, rfl⟩
  | some found =>
    obtain ⟨r, captures⟩ := found
    obtain ⟨hmem, rfl⟩ := captures_eq_nil hroute
    cases haction : r.action? req.method with
    | none =>
      refine .inr ⟨by simp only [plainAction?, hroute, Option.bind_some, haction, Option.map_none],
        ?_⟩
      rw [servePlain, hroute]
      simp only [serveRoute, haction]
      refine ⟨trivial, ?_⟩
      rw [all_finish _ (by decide)]
      rfl
    | some action =>
      obtain ⟨action, rfl⟩ := exists_storageAction hmem haction
      refine .inl ⟨action, r.flags,
        by simp only [plainAction?, hroute, Option.bind_some, haction, Option.map_some], ?_⟩
      rw [servePlain, hroute]
      simp only [serveRoute, haction]
      rfl

/-- Logins need a name. -/
theorem received_login (g : Gateway) (service : Service) (flags : Scope.Flags) (req : Inbound) :
    ((g.storagePlan (.nameless flags) req .login).run g.backend service req.jar).received = [] := by
  rw [storagePlan, Account.login]
  cases Form.read req.headers req.body.chunks ["password"] with
  | error r => rfl
  | ok fields => rfl

/-- The same request at the address of the permanent area. -/
structure IsPermanentTwin (req twin : Inbound) : Prop where
  same : twin = { req with target := twin.target }
  routes : ∃ r captures r' captures', route? Route.plainTable req = some (r, captures) ∧
    route? Route.plainTable twin = some (r', captures') ∧
    r'.pattern = Route.permanent :: r.pattern

/-- The two addresses of a handler differ in the area alone. -/
theorem route_permanent : ∀ r ∈ Route.plainTable, ∀ r' ∈ Route.plainTable,
    r'.pattern = Route.permanent :: r.pattern →
      r'.get = r.get ∧ r'.post = r.post ∧ r'.flags.isPublic = r.flags.isPublic := by decide

/-- Without a name the permanent area is served as the private one is. -/
theorem servePlain_twin (g : Gateway) (service : Service) {req twin : Inbound}
    (h : IsPermanentTwin req twin) : g.servePlain service twin = g.servePlain service req := by
  obtain ⟨hsame, r, captures, r', captures', hroute, hroute', hpattern⟩ := h
  generalize twin.target = target at hsame
  subst hsame
  obtain ⟨hmem, rfl⟩ := captures_eq_nil hroute
  obtain ⟨hmem', rfl⟩ := captures_eq_nil hroute'
  obtain ⟨hget, hpost, hpublic⟩ := route_permanent r hmem r' hmem' hpattern
  have haction : r'.action? req.method = r.action? req.method := by
    rw [Route.action?, Route.action?, hget, hpost]
  have hscope : Scope.nameless r'.flags = Scope.nameless r.flags := by
    rw [Scope.nameless, Scope.nameless, hpublic]
  rw [servePlain, servePlain, hroute, hroute']
  simp only [serveRoute, haction]
  cases hfound : r.action? req.method with
  | none => simp only [methodNotAllowed, Route.allowed, hget, hpost]
  | some action =>
    obtain ⟨action, rfl⟩ := exists_storageAction hmem hfound
    have hplan : g.storagePlan (.nameless r'.flags) { req with target } action =
        g.storagePlan (.nameless r.flags) req action := by
      rw [hscope]
      cases action <;> rfl
    simp only [plan, Scope.ofCaptures_nil, hplan]

/-- No cookie is changed without a name. -/
theorem setCookies_servePlain (g : Gateway) (service : Service) (req : Inbound) :
    (g.servePlain service req).1.headers.all "set-cookie" = [] := by
  rcases g.servePlain_cases service req with ⟨action, flags, -, hserve⟩ | ⟨-, -, hcookies⟩
  · obtain ⟨hjar, hplain, -⟩ := g.run_nameless service flags req action
    have hchanges : Cookie.Jar.setCookies g.cookies req.jar = [] := rfl
    rw [hserve, respondPlain, all_finish _ (by decide), Response.addHeaders, Headers.all_append,
      Response.isPlain_ofOutcome hplain, hjar, hchanges]
    rfl
  · exact hcookies

/-- A request without a name has no session. It sends no token, whatever cookies come with it, and
its response changes none, whatever the service replies; it does not log in; and it is served at
the address of the permanent area as at the other one. Nothing that the service receives is about
the permanent area by its form, and by its query only where the address of the endpoint is, or the
place that a reply leads to. -/
theorem nameless_requests_are_unauthorised (g : Gateway) (service : Service) (req : Inbound) :
    (∀ r ∈ (g.servePlain service req).2,
      (∀ value ∈ r.authorization, ¬Bytes.ofAscii "Bearer" <+: value) ∧ permanentMark ∉ r.form ∧
      (permanentMark ∈ r.url.parameters →
        (∃ action flags endpoint address, plainAction? req = some (action, flags) ∧
          action.endpoint? = some endpoint ∧
          Backend.endpoint? g.backend.base endpoint = .ok address ∧
          permanentMark ∈ address.parameters) ∨
        ∃ prior ∈ (g.servePlain service req).2, ∃ reply,
          .reply reply ∈ service.deliveries ∧ Exchange.LeadsTo prior reply r)) ∧
    (g.servePlain service req).1.headers.all "set-cookie" = [] ∧
    (∀ flags, plainAction? req = some (.within .login, flags) →
      (g.servePlain service req).2 = []) ∧
    ∀ twin, IsPermanentTwin req twin → g.servePlain service twin = g.servePlain service req := by
  refine ⟨fun r hr => ?_, g.setCookies_servePlain service req, fun flags hlogin => ?_,
    fun twin => g.servePlain_twin service⟩
  · rcases g.servePlain_cases service req with
      ⟨action, flags, haction, hserve⟩ | ⟨-, hreceived, -⟩
    · obtain ⟨-, -, hnone | ⟨call, address, hcall, haddress, hsent⟩⟩ :=
        g.run_nameless service flags req action
      · rw [hserve, respondPlain, hnone] at hr
        cases hr
      · rw [hserve, respondPlain, hsent] at hr ⊢
        obtain ⟨htoken, hform, hquery⟩ := received_nameless hcall hr
        refine ⟨htoken, hform, fun hmem => (hquery hmem).imp_left fun haddressed => ?_⟩
        exact ⟨_, flags, _, address, haction, hcall.endpoint_eq, haddress, haddressed⟩
    · rw [hreceived] at hr
      cases hr
  · rcases g.servePlain_cases service req with
      ⟨action, flags', haction, hserve⟩ | ⟨-, hreceived, -⟩
    · cases hlogin.symm.trans haction
      rw [hserve, respondPlain, received_login]
    · exact hreceived

/-- A redirect to the permanent area is followed, and a base URL whose query is about it puts it
into the address of every endpoint. -/
theorem permanent_area_is_told_from_outside :
    let gateway (query : Option String) : Gateway :=
      ⟨⟨⟨"http", some { host := .domain "s" }, .segments [""], query, none⟩, []⟩, ⟨60, false⟩, 0⟩
    let view : Inbound := { target := Bytes.ofAscii "/view" }
    let listing : Delivery := .reply { status := 200, body := Bytes.ofAscii "[]" }
    let redirect : Delivery :=
      .reply { status := 302, headers := [.ofText "location" "/list/?permanent=true"] }
    (∃ r ∈ ((gateway none).servePlain (.scripted [redirect, listing]) view).2,
      permanentMark ∈ r.url.parameters) ∧
    ∃ r ∈ ((gateway (some "permanent=true&x")).servePlain (.scripted [listing]) view).2,
      permanentMark ∈ r.url.parameters := by
  decide +kernel

/-- The directory page has two addresses. -/
example : IsPermanentTwin { target := Bytes.ofAscii "/view?a" }
    { target := Bytes.ofAscii "/permanent/view" } :=
  ⟨rfl, _, _, _, _, rfl, rfl, rfl⟩

end Gateway

end StorageGateway
