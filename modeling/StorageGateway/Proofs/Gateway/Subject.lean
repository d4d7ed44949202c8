import StorageGateway.Proofs.Gateway.Errands

/-!
# What a request is about

A request that is not turned away has an action, and most actions are about one storage. The
answer to such a request is determined by the request without its cookies, by the replies of the
storage service, and by two facts about the one cookie of its storage.

## Main definitions

* `Inbound.withoutCookies`, `Inbound.jar`: a request in two parts.
* `Gateway.plan?`, `Gateway.subject?`: the plan of a request, and what it is about.
* `Gateway.IsAnsweredAtOnce`, `Gateway.Reaches`: requests that make no call, or one.
* `Gateway.answer`: the answer that a settlement stands for.

## Main results

* `Gateway.serve_subject`: the answer to a request that is about a storage.
* `Gateway.serve_no_subject`: the answer to any other request.
* `Gateway.received_serve`: what the service receives.
* `Gateway.setCookies_answer`: the `set-cookie` fields of an answer.
-/

namespace StorageGateway

open Cookie

/-! ### The parts of a request -/

namespace Inbound

/-- A request without its cookies. -/
def withoutCookies (req : Inbound) : Inbound :=
  { req with headers := req.headers.filter (·.name != "cookie") }

/-- The cookies of a request. -/
def jar (req : Inbound) : Jar := Jar.ofHeaders req.headers

theorem changes_jar (req : Inbound) : req.jar.changes = [] := rfl

/-- Fields of another name are not lost with the cookies. -/
theorem first?_withoutCookies (req : Inbound) {name : String} (h : name ≠ "cookie") :
    req.withoutCookies.headers.first? name = req.headers.first? name := by
  rw [Headers.first?, Headers.first?, withoutCookies, List.find?_filter]
  congr 2
  funext x
  by_cases hx : x.name = name
  · simp [hx, h]
  · simp [hx]

theorem contentType_withoutCookies (req : Inbound) :
    req.withoutCookies.headers.first? "content-type" = req.headers.first? "content-type" :=
  req.first?_withoutCookies (by decide)

theorem readForm_withoutCookies (req : Inbound) (names : List String) :
    Form.read req.withoutCookies.headers req.withoutCookies.body.chunks names =
      Form.read req.headers req.body.chunks names := by
  simp only [Form.read, Form.isAnnounced, req.contentType_withoutCookies]
  rfl

theorem readFiles_withoutCookies (req : Inbound) (limit : Nat) :
    Multipart.read req.withoutCookies.headers limit req.withoutCookies.body =
      Multipart.read req.headers limit req.body := by
  simp only [Multipart.read, req.contentType_withoutCookies]
  rfl

end Inbound

namespace Gateway

/-! ### Plans and subjects -/

/-- The action of a request and the route that led to it; `none` when the request is turned
away. -/
def action? (req : Inbound) : Option (Action × Scope.Flags × Route.Captures) :=
  (route? Route.table req).bind fun (r, captures) =>
    (r.action? req.method).map fun action => (action, r.flags, captures)

/-- The plan of a request that is not turned away. -/
def plan? (g : Gateway) (req : Inbound) : Option Plan :=
  (action? req).map fun (action, flags, captures) => g.plan flags captures req action

/-- The action of a request that is about a storage, and the storage. -/
def subject? (req : Inbound) : Option (Action × String) :=
  (action? req).bind fun (action, flags, captures) =>
    (action.storage? flags captures req).map (action, ·)

/-- The scope of a request that is about the storage in its path. -/
theorem exists_scope_of_subject? {req : Inbound} {action : StorageAction} {storage : String}
    (h : subject? req = some (.within action, storage)) :
    ∃ flags captures s, action? req = some (.within action, flags, captures) ∧
      Scope.ofCaptures flags captures = .ok s ∧ s.storage = storage ∧
      ∀ g : Gateway, g.plan? req = some (g.storagePlan s req action) := by
  obtain ⟨⟨action', flags, captures⟩, haction, h⟩ := Option.bind_eq_some_iff.mp h
  obtain ⟨storage', hstorage, heq⟩ := Option.map_eq_some_iff.mp h
  cases heq
  rw [Action.storage?] at hstorage
  cases hscope : Scope.ofCaptures flags captures with
  | error f => simp [hscope, Except.toOption] at hstorage
  | ok s =>
    refine ⟨flags, captures, s, haction, hscope, by simpa [hscope, Except.toOption] using hstorage,
      fun g => ?_⟩
    simp only [plan?, haction, Option.map_some, plan, hscope]

theorem plan_withoutCookies (g : Gateway) (flags : Scope.Flags) (captures : Route.Captures)
    (req : Inbound) (action : Action) :
    g.plan flags captures req.withoutCookies action = g.plan flags captures req action := by
  cases action with
  | home => rfl
  | resource => rfl
  | icon => rfl
  | registerPage => rfl
  | register => simp only [plan, Account.register, req.readForm_withoutCookies]
  | within action =>
    rw [plan, plan]
    cases Scope.ofCaptures flags captures with
    | error f => rfl
    | ok s =>
      cases action with
      | login => simp only [storagePlan, Account.login, req.readForm_withoutCookies]
      | upload => simp only [storagePlan, Files.upload, req.readFiles_withoutCookies]
      | remove => simp only [storagePlan, Files.remove, req.readForm_withoutCookies]
      | shareText => simp only [storagePlan, Files.shareText, req.readForm_withoutCookies]
      | _ => rfl

theorem action?_withoutCookies (req : Inbound) : action? req.withoutCookies = action? req := rfl

/-- The plan does not depend on the cookies. -/
theorem plan?_withoutCookies (g : Gateway) (req : Inbound) :
    g.plan? req.withoutCookies = g.plan? req := by
  simp only [plan?, action?_withoutCookies, plan_withoutCookies]

/-- What a request is about does not depend on its cookies. -/
theorem subject?_withoutCookies (req : Inbound) : subject? req.withoutCookies = subject? req := by
  have hstorage (action : Action) (flags : Scope.Flags) (captures : Route.Captures) :
      action.storage? flags captures req.withoutCookies = action.storage? flags captures req := by
    cases action with
    | register => simp only [Action.storage?, req.readForm_withoutCookies]
    | _ => rfl
  simp only [subject?, action?_withoutCookies, hstorage]

/-- The plan of a request that is about a storage is an errand of this storage. -/
theorem plan?_of_subject? (g : Gateway) {req : Inbound} {action : Action} {storage : String}
    (h : subject? req = some (action, storage)) :
    ∃ e : Errand, e.Suits storage action ∧ g.plan? req = some (e.plan storage) := by
  obtain ⟨⟨action', flags, captures⟩, haction, h⟩ := Option.bind_eq_some_iff.mp h
  obtain ⟨storage', hstorage, h⟩ := Option.map_eq_some_iff.mp h
  cases h
  obtain ⟨e, hsuits, hplan⟩ := plan_scoped (g := g) hstorage
  exact ⟨e, hsuits, by simp only [plan?, haction, Option.map_some, hplan]⟩

/-- A request that is turned away or answered at once, without a change of cookies. -/
def IsAnsweredAtOnce (g : Gateway) (req : Inbound) : Prop :=
  g.plan? req = none ∨
    ∃ outcome, Response.IsPlainOutcome outcome ∧ g.plan? req = some (.reply outcome)

/-- Any other request is answered at once. -/
theorem isAnsweredAtOnce_of_no_subject (g : Gateway) {req : Inbound} (h : subject? req = none) :
    g.IsAnsweredAtOnce req := by
  rw [IsAnsweredAtOnce, plan?]
  cases haction : action? req with
  | none => exact .inl rfl
  | some found =>
    rw [subject?, haction, Option.bind_some, Option.map_eq_none_iff] at h
    obtain ⟨outcome, hplain, hplan⟩ := plan_unscoped (g := g) h
    exact .inr ⟨outcome, hplain, by simp only [Option.map_some, hplan]⟩

/-! ### Answers -/

/-- The response to a request whose outcome and cookie changes are known. -/
def respond (g : Gateway) (method : String) (changes : Table Change)
    (outcome : Except Fault Response) : Response :=
  (((Response.ofOutcome outcome).addHeaders
    (Jar.setCookies g.cookies { changes })).finish (method = "HEAD")).harden

/-- The answer to a request about a storage that ends with a settlement. -/
def answer (g : Gateway) (method storage : String) (s : Settlement) : Response × List Request :=
  (g.respond method (Session.marks storage s.mark) s.outcome, s.received)

theorem serve_of_plan? {g : Gateway} {req : Inbound} {p : Plan} (h : g.plan? req = some p)
    (service : Service) :
    g.serve service req =
      let served := p.run g.backend service req.jar
      (g.respond req.method served.jar.changes served.outcome, served.received) := by
  obtain ⟨⟨action, flags, captures⟩, haction, hplan⟩ := Option.map_eq_some_iff.mp h
  obtain ⟨⟨r, captures'⟩, hroute, hr⟩ := Option.bind_eq_some_iff.mp haction
  obtain ⟨action', haction', hr⟩ := Option.map_eq_some_iff.mp hr
  cases hr
  rw [serve, hroute]
  simp only [serveRoute, haction']
  rw [← hplan]
  rfl

/-- The answer to a request that is about a storage. It depends on the cookies in two points. -/
theorem serve_subject (g : Gateway) {req : Inbound} {action : Action} {storage : String}
    (h : subject? req = some (action, storage)) :
    ∃ e : Errand, e.Suits storage action ∧ g.plan? req = some (e.plan storage) ∧
      ∀ service (req' : Inbound), req'.withoutCookies = req.withoutCookies →
        g.serve service req' = g.answer req.method storage
          (e.settle g.backend service storage (Session.token? req'.jar storage)
            (Session.isHeld req'.jar storage)) := by
  obtain ⟨e, hsuits, hplan⟩ := g.plan?_of_subject? h
  refine ⟨e, hsuits, hplan, fun service req' halike => ?_⟩
  have hplan' : g.plan? req' = some (e.plan storage) := by
    rw [← plan?_withoutCookies, halike, plan?_withoutCookies, hplan]
  have hmethod : req'.method = req.method := by
    change req'.withoutCookies.method = req.withoutCookies.method
    rw [halike]
  rw [serve_of_plan? hplan', Plan.run_errand _ _ _ req'.changes_jar, ← hmethod]
  rfl

/-! ### The fields of an answer -/

theorem all_setHeader {r : Response} {h : Header} {name : String} (hname : h.name ≠ name) :
    (r.setHeader h).headers.all name = r.headers.all name := by
  have hlast : Headers.all [h] name = [] := by simp [Headers.all, hname]
  have hrest : Headers.all (r.headers.filter (·.name != h.name)) name = r.headers.all name := by
    rw [Headers.all, Headers.all, List.filter_filter]
    congr 2
    funext x
    by_cases hx : x.name = name
    · simp [hx, Ne.symm hname]
    · simp [hx]
  rw [Response.setHeader, Headers.all_append, hrest, hlast, List.append_nil]

/-- The fields that protect a page change no other field. -/
theorem all_harden {r : Response} {name : String} (hframes : "x-frame-options" ≠ name)
    (hsniffing : "x-content-type-options" ≠ name) :
    r.harden.headers.all name = r.headers.all name := by
  rw [Response.harden, all_setHeader hsniffing, all_setHeader hframes]

/-- The last step before a response is sent changes no field but the length. -/
theorem all_finish {r : Response} (headOnly : Bool) {name : String}
    (hname : "content-length" ≠ name) :
    (r.finish headOnly).headers.all name = r.headers.all name := by
  have hadded (n : Nat) :
      Headers.all [.ofText "content-length" (toString n)] name = [] := by
    simp [Headers.all, Header.ofText, hname]
  have hlength : r.announceLength.headers.all name = r.headers.all name := by
    rw [Response.announceLength]
    split
    · split
      · rfl
      · rw [Response.addHeaders, Headers.all_append, hadded, List.append_nil]
    · rfl
  rw [Response.finish]
  cases headOnly <;> exact hlength

/-- The changes of a jar are sent as `set-cookie` fields. -/
theorem all_setCookies (p : Policy) (changes : Table Change) :
    Headers.all (Jar.setCookies p { changes }) "set-cookie" =
      changes.map fun c => Bytes.ofAscii (line p c.1 c.2) := by
  induction changes with
  | nil => rfl
  | cons c changes ih =>
    rw [Jar.setCookies, Headers.all] at ih ⊢
    simpa [Header.ofText] using ih

/-- The only `set-cookie` field of an answer is that of its mark. -/
theorem setCookies_respond (g : Gateway) (method : String) (changes : Table Change)
    {outcome : Except Fault Response} (h : Response.IsPlainOutcome outcome) :
    (g.respond method changes outcome).headers.all "set-cookie" =
      changes.map fun c => Bytes.ofAscii (line g.cookies c.1 c.2) := by
  rw [respond, all_harden (by decide) (by decide), all_finish _ (by decide), Response.addHeaders,
    Headers.all_append, Response.isPlain_ofOutcome h, all_setCookies, List.nil_append]

/-- The fields that every answer gets, whatever its outcome is. -/
def addedFields : List String :=
  ["set-cookie", "content-length", "x-frame-options", "x-content-type-options"]

/-- The other fields of an answer are those of its outcome. -/
theorem all_respond (g : Gateway) (method : String) (changes : Table Change)
    (outcome : Except Fault Response) {name : String} (hname : name ∉ addedFields) :
    (g.respond method changes outcome).headers.all name =
      (Response.ofOutcome outcome).headers.all name := by
  simp only [addedFields, List.mem_cons, List.not_mem_nil, or_false, not_or] at hname
  obtain ⟨hcookie, hlength, hframes, hsniffing⟩ := hname
  have hchanges : Headers.all (Jar.setCookies g.cookies { changes }) name = [] := by
    rw [Headers.all, List.map_eq_nil_iff, List.filter_eq_nil_iff]
    intro h hmem
    obtain ⟨c, -, rfl⟩ := List.mem_map.mp hmem
    simpa [Header.ofText] using Ne.symm hcookie
  rw [respond, all_harden (Ne.symm hframes) (Ne.symm hsniffing), all_finish _ (Ne.symm hlength),
    Response.addHeaders, Headers.all_append, hchanges, List.append_nil]

/-- The status of an answer is that of its outcome. -/
theorem status_respond (g : Gateway) (method : String) (changes : Table Change)
    (outcome : Except Fault Response) :
    (g.respond method changes outcome).status = (Response.ofOutcome outcome).status := by
  have hlength (r : Response) : r.announceLength.status = r.status := by
    rw [Response.announceLength]
    split
    · split <;> rfl
    · rfl
  rw [respond, Response.finish]
  split <;> exact hlength _

/-- The body of an answer is that of its outcome, if one was asked for. -/
theorem body_respond (g : Gateway) (method : String) (changes : Table Change)
    (outcome : Except Fault Response) :
    (g.respond method changes outcome).body =
      if method = "HEAD" then .sized [] else (Response.ofOutcome outcome).body := by
  have hlength (r : Response) : r.announceLength.body = r.body := by
    rw [Response.announceLength]
    split
    · split <;> rfl
    · rfl
  rw [respond, Response.finish]
  by_cases hmethod : method = "HEAD"
  · simp only [hmethod, decide_true, if_true]
    rfl
  · simp only [hmethod, decide_false, Bool.false_eq_true, if_false]
    exact hlength _

/-- A request that is turned away is answered without a call. -/
theorem serve_of_no_plan {g : Gateway} {req : Inbound} (h : g.plan? req = none)
    (service : Service) :
    (g.serve service req).2 = [] ∧ (g.serve service req).1.headers.all "set-cookie" = [] := by
  rw [plan?, Option.map_eq_none_iff, action?] at h
  rw [serve]
  cases hroute : route? Route.table req with
  | none =>
    refine ⟨rfl, ?_⟩
    rw [all_harden (by decide) (by decide), all_finish _ (by decide)]
    rfl
  | some found =>
    rw [hroute, Option.bind_some, Option.map_eq_none_iff] at h
    simp only [serveRoute, h]
    refine ⟨trivial, ?_⟩
    rw [all_harden (by decide) (by decide), all_finish _ (by decide)]
    rfl

/-- A request that is answered at once makes no call and changes no cookie. -/
theorem IsAnsweredAtOnce.serve {g : Gateway} {req : Inbound} (h : g.IsAnsweredAtOnce req)
    (service : Service) :
    (g.serve service req).2 = [] ∧ (g.serve service req).1.headers.all "set-cookie" = [] := by
  rcases h with hplan | ⟨outcome, hplain, hplan⟩
  · exact serve_of_no_plan hplan service
  · rw [serve_of_plan? hplan]
    exact ⟨rfl, g.setCookies_respond req.method [] hplain⟩

/-- The answer to a request that is about no storage. -/
theorem serve_no_subject (g : Gateway) {req : Inbound} (h : subject? req = none)
    (service : Service) :
    (g.serve service req).2 = [] ∧ (g.serve service req).1.headers.all "set-cookie" = [] :=
  (g.isAnsweredAtOnce_of_no_subject h).serve service

/-- A request that leads to a call, which is carried by the request `first`. -/
def Reaches (g : Gateway) (req : Inbound) (first : Request) : Prop :=
  ∃ storage call next, g.plan? req = some (.ask storage call next) ∧
    g.backend.request? req.jar storage call = .ok first

/-- What the service receives stems from one call at most. -/
theorem received_serve (g : Gateway) (service : Service) (req : Inbound) :
    (g.serve service req).2 = [] ∨
      ∃ first, g.Reaches req first ∧
        (g.serve service req).2 = (Exchange.send service first).received := by
  cases hplan : g.plan? req with
  | none => exact .inl (serve_of_no_plan hplan service).1
  | some p =>
    rw [serve_of_plan? hplan]
    cases p with
    | answer change outcome => exact .inl rfl
    | ask storage call next =>
      cases hrequest : g.backend.request? req.jar storage call with
      | error f => exact .inl (by simp only [Plan.run, hrequest])
      | ok first =>
        refine .inr ⟨first, ⟨storage, call, next, hplan, hrequest⟩, ?_⟩
        simp only [Plan.run, hrequest]

end Gateway

end StorageGateway
