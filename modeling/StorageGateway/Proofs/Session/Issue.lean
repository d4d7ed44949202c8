import StorageGateway.Proofs.Gateway.Calls
import StorageGateway.Proofs.Gateway.Reports
import StorageGateway.Proofs.Session.Ledger

/-!
# Issued tokens

A login or a registration that leads on to its storage has stored the body of a reply as the token
of this storage. Which bodies can be borne by the requests that follow is a question of header
fields, which is not asked when the body is stored: a text that is empty is no token, and a text
with a control character keeps every later request of the storage from being sent.

## Main definitions

* `Plan.IsEntry`: the plans of a login or a registration.
* `Gateway.ownAuthorization`: the authorization that does not depend on a token.

## Main results

* `Gateway.exists_reply_of_found`: an answer that leads on to a storage stems from a success.
* `Gateway.received_of_ask`: the requests of a call are those that can bear the token.
* `Browser.issued_token_is_borne_iff`: the bodies that the requests after a login bear.
-/

namespace StorageGateway

open Cookie

/-! ### Logins and registrations -/

theorem FaultKind.status_ne_found (k : FaultKind) : k.status ≠ 302 := by cases k <;> decide

/-- The plans of a login or a registration: there is a call about a storage that has a name, or
the answer leads nowhere. -/
inductive Plan.IsEntry (storage : String) : Plan → Prop
  | answer {outcome} (staying : (Response.ofOutcome outcome).status ≠ 302) :
      IsEntry storage (.reply outcome)
  | ask {call form} (named : storage ≠ "") :
      IsEntry storage (.ask storage call (Account.acceptOrShow storage form))

namespace Plan

variable {storage : String}

theorem isEntry_refuse (f : Fault) : (refuse f).IsEntry storage := .answer f.kind.status_ne_found

theorem isEntry_page (p : Html.Page) : (page p).IsEntry storage := .answer (by decide : 200 ≠ 302)

end Plan

theorem Account.isEntry_login (s : Scope) (req : Inbound) : (login s req).IsEntry s.storage := by
  rw [login]
  split
  · exact Plan.isEntry_refuse _
  · next fields _ =>
    dsimp only
    split
    · exact Plan.isEntry_page _
    · next hmessage =>
      refine .ask fun hempty => ?_
      simp [hempty, loginEntry, Page.Entry.hasMessage] at hmessage

theorem Account.isEntry_register (req : Inbound) {storage : String}
    (h : (Form.read req.headers req.body.chunks ["name", "password"]).toOption.map (·.headD "") =
      some storage) : (register req).IsEntry storage := by
  rw [register]
  split
  · exact Plan.isEntry_refuse _
  · next fields hread =>
    obtain rfl : fields.headD "" = storage := by simpa [hread, Except.toOption] using h
    dsimp only
    split
    · exact Plan.isEntry_page _
    · next hname => exact .ask (by simpa using hname)

namespace Gateway

variable {g : Gateway} {req : Inbound} {action : Action} {storage : String}

/-- The plan of a login or a registration. -/
theorem isEntry_of_subject? (g : Gateway) (h : subject? req = some (action, storage))
    (htoken : action.asksToken = true) : ∃ p, g.plan? req = some p ∧ p.IsEntry storage := by
  rw [Action.asksToken, Bool.or_eq_true, decide_eq_true_eq, decide_eq_true_eq] at htoken
  rcases htoken with rfl | rfl
  · obtain ⟨⟨action', flags, captures⟩, haction, h⟩ := Option.bind_eq_some_iff.mp h
    obtain ⟨storage', hstorage, heq⟩ := Option.map_eq_some_iff.mp h
    cases heq
    refine ⟨Account.register req, ?_, Account.isEntry_register req hstorage⟩
    simp only [plan?, haction, Option.map_some, plan]
  · obtain ⟨-, -, s, -, -, rfl, hplan⟩ := exists_scope_of_subject? h
    exact ⟨_, hplan g, Account.isEntry_login s req⟩

/-- An answer that leads on to a storage stems from a success whose body has arrived. -/
theorem exists_reply_of_found (h : subject? req = some (action, storage))
    (htoken : action.asksToken = true) {service : Service}
    (hfound : (g.serve service req).1.status = 302) :
    storage ≠ "" ∧ ∃ r, g.finalReply? service (Session.token? req.jar storage) req = some r ∧
      r.status = 200 ∧ r.isWhole = true := by
  obtain ⟨p, hplan, hentry⟩ := g.isEntry_of_subject? h htoken
  rw [serve_of_plan? hplan, status_respond] at hfound
  rw [finalReply?, hplan, Option.bind_some]
  cases hentry with
  | answer hstaying => exact absurd hfound hstaying
  | @ask call form hnamed =>
    refine ⟨hnamed, ?_⟩
    rw [Plan.finalReply?, Backend.exchange?, ← Backend.request?_eq]
    rw [Plan.run] at hfound
    cases hrequest : g.backend.request? req.jar storage call with
    | error f =>
      simp only [hrequest] at hfound
      cases hfound
    | ok request =>
      simp only [hrequest] at hfound
      cases hsettle : Exchange.settle (Exchange.send service request).reply with
      | error f =>
        simp only [hsettle] at hfound
        cases hfound
      | ok r =>
        obtain ⟨hreply, hstatus⟩ := Exchange.settle_eq_ok_iff.mp hsettle
        refine ⟨r, hreply, hstatus, ?_⟩
        cases hwhole : r.isWhole with
        | true => rfl
        | false =>
          simp only [hsettle, Account.acceptOrShow, Account.acceptToken, hwhole] at hfound
          cases hfound

/-- The authorization that all requests bear: that of the user in the base URL, if there is one. -/
def ownAuthorization (g : Gateway) : List Bytes :=
  (g.backend.base.user?.map basicAuthorization).toList

/-- A token is not borne by way of the base URL. -/
theorem bearer_notMem_ownAuthorization (g : Gateway) (bs : Bytes) :
    Bytes.ofAscii "Bearer " ++ bs ∉ g.ownAuthorization := by
  rw [ownAuthorization, Option.mem_toList, Option.map_eq_some_iff]
  rintro ⟨user, -, h⟩
  cases h

/-- A reply to the call of a request shows that the host of the base URL can be read again. -/
theorem isReadable_of_finalReply? {o : Options} (hbase : o.baseUrl = .ok g.backend.base)
    {service : Service} {token : Option String} {r : Reply}
    (h : g.finalReply? service token req = some r) : g.backend.base.isReadable = true := by
  obtain ⟨p, hplan, h⟩ := Option.bind_eq_some_iff.mp h
  cases p with
  | answer => cases h
  | ask storage call next =>
    obtain ⟨⟨action, flags, captures⟩, haction, hask⟩ := Option.map_eq_some_iff.mp hplan
    have hprinted := Action.isPrinted_endpoint (ask_cases haction hask).1.endpoint_eq
    cases hrequest : g.backend.requestWith? token call with
    | error f =>
      rw [Plan.finalReply?, Backend.exchange?, hrequest] at h
      cases h
    | ok request =>
      obtain ⟨address, haddress, -⟩ := Backend.exists_address_of_requestWith? hrequest
      exact Backend.isReadable_of_endpoint? hbase hprinted haddress

/-- What a call sends: everything when the token can be borne, and nothing otherwise. -/
theorem received_of_ask {o : Options} (hbase : o.baseUrl = .ok g.backend.base)
    (hread : g.backend.base.isReadable = true) {call : Call} {next : Continuation}
    (hplan : g.plan? req = some (.ask storage call next)) :
    ∃ request : Request, request.authorization = g.ownAuthorization ++
        ((Session.token? req.jar storage).map bearerAuthorization).toList ∧
      ∀ service, (g.serve service req).2 =
        if Backend.canBear (Session.token? req.jar storage) then
          (Exchange.send service request).received
        else [] := by
  obtain ⟨⟨action, flags, captures⟩, haction, hask⟩ := Option.map_eq_some_iff.mp hplan
  obtain ⟨address, haddress, -, hauthority, hhost⟩ := Backend.exists_endpoint? hbase hread
    (Action.isPrinted_endpoint (ask_cases haction hask).1.endpoint_eq)
  refine ⟨g.backend.requestTo address call (Session.token? req.jar storage), ?_, fun service => ?_⟩
  · rw [Backend.requestTo, Url.user?_congr hauthority]
    rfl
  · rw [serve_of_plan? hplan, Plan.run, Backend.request?_eq,
      Backend.requestWith?_eq haddress hhost]
    cases Backend.canBear (Session.token? req.jar storage) <;> rfl

/-- What is sent for a text that is stored as the token. -/
theorem sent_of_text {o : Options} (hbase : o.baseUrl = .ok g.backend.base)
    (hread : g.backend.base.isReadable = true) {call : Call} {next : Continuation}
    (hplan : g.plan? req = some (.ask storage call next)) {text : String}
    (htoken : Session.token? req.jar storage = Ledger.ofText text) (deliveries : List Delivery) :
    ((g.serve (.scripted deliveries) req).2 = [] ↔
        Header.isWritable (Utf8.ofString text) = false) ∧
      ∀ first rest, (g.serve (.scripted deliveries) req).2 = first :: rest →
        first.authorization = g.ownAuthorization ++ if Utf8.ofString text = [] then []
          else [Bytes.ofAscii "Bearer " ++ Utf8.ofString text] := by
  obtain ⟨request, hauthorization, hreceived⟩ := received_of_ask hbase hread hplan
  have hbear : Backend.canBear (Session.token? req.jar storage) =
      Header.isWritable (Utf8.ofString text) := by
    rw [htoken, Ledger.ofText]
    split
    · next hempty =>
      rw [hempty]
      rfl
    · exact Backend.canBear_some text
  rw [hreceived, hbear]
  cases Header.isWritable (Utf8.ofString text) with
  | false =>
    refine ⟨by simp, fun first rest hsent => ?_⟩
    cases hsent
  | true =>
    obtain ⟨rest, hrest⟩ := Exchange.received_scripted deliveries request
    rw [if_pos rfl, hrest]
    refine ⟨by simp, fun first rest' hsent => ?_⟩
    obtain ⟨rfl, -⟩ := List.cons.inj hsent
    rw [hauthorization, htoken, Ledger.ofText]
    by_cases hempty : text = ""
    · rw [if_pos hempty, if_pos (Utf8.ofString_eq_nil.mpr hempty)]
      rfl
    · rw [if_neg hempty, if_neg (Utf8.ofString_eq_nil.not.mpr hempty)]
      rfl

end Gateway

/-! ### Later requests -/

/-- The text of a body that is written like it. -/
theorem Utf8.ofString_toStringLossy_eq_iff {bs : Bytes} :
    ofString (toStringLossy bs) = bs ↔ (toString? bs).isSome := by
  constructor
  · intro h
    rw [← h, toString?_ofString, Option.isSome_some]
  · intro h
    obtain ⟨text, htext⟩ := Option.isSome_iff_exists.mp h
    rw [← ofString_of_toString? htext, toStringLossy_ofString]

namespace Browser

variable {g : Gateway} {action : Action} {storage : String}

/-- The text of a body is borne as the body itself when nothing of it is lost. -/
theorem bears_body_iff {sent : List Request} {body : Bytes}
    (hnothing : sent = [] ↔ Header.isWritable (Utf8.ofString (Utf8.toStringLossy body)) = false)
    (hborne : ∀ first rest, sent = first :: rest → first.authorization = g.ownAuthorization ++
      if Utf8.ofString (Utf8.toStringLossy body) = [] then []
      else [Bytes.ofAscii "Bearer " ++ Utf8.ofString (Utf8.toStringLossy body)]) :
    (∃ first rest, sent = first :: rest ∧
        Bytes.ofAscii "Bearer " ++ body ∈ first.authorization) ↔
      Header.isWritable body = true ∧ body ≠ [] ∧ (Utf8.toString? body).isSome := by
  constructor
  · rintro ⟨first, rest, hsent, hbody⟩
    rw [hborne first rest hsent, List.mem_append] at hbody
    replace hbody := hbody.resolve_left (g.bearer_notMem_ownAuthorization body)
    split at hbody
    · cases hbody
    · next hne =>
      have htext : Utf8.ofString (Utf8.toStringLossy body) = body := by
        simpa using (List.mem_singleton.mp hbody).symm
      rw [htext] at hnothing hne
      exact ⟨by simpa [hsent] using hnothing, hne, Utf8.ofString_toStringLossy_eq_iff.mp htext⟩
  · rintro ⟨hwritable, hne, htext⟩
    rw [Utf8.ofString_toStringLossy_eq_iff.mpr htext] at hnothing hborne
    obtain ⟨first, rest, hsent⟩ :=
      List.exists_cons_of_ne_nil (hnothing.not.mpr (by simp [hwritable]))
    refine ⟨first, rest, hsent, ?_⟩
    rw [hborne first rest hsent, if_neg hne]
    exact List.mem_append_right _ (List.mem_singleton_self _)

/-- A login or a registration that succeeds leaves the text of its reply as the token. -/
theorem token?_of_entry (before : List Step) {s : Step}
    (hsubject : Gateway.subject? s.request = some (action, storage))
    (htoken : action.asksToken = true) (hnamed : storage ≠ "") {r : Reply}
    (hreply : g.finalReply? s.service (Session.token? (run g [] before).jar storage) s.request =
      some r) (hstatus : r.status = 200) (hwhole : r.isWhole = true) :
    Session.token? (run g [] (before ++ [s])).jar storage =
      Ledger.ofText (Utf8.toStringLossy r.body) := by
  have hlogout : action ≠ .within .logout := by
    rintro rfl
    cases htoken
  have hholds (steps : List Step) := (Store.holds_nil.run g steps).token?_jar storage
  rw [hholds before] at hreply
  rw [hholds, Ledger.run, List.foldl_append, List.foldl_cons, List.foldl_nil, ← Ledger.run,
    Ledger.step, hsubject]
  simp only [hnamed, if_false, Function.update_self, hreply]
  rw [Ledger.entryAfter, if_neg hlogout, Option.elim_some, Ledger.afterReply,
    if_neg (not_not_intro hstatus), if_pos ⟨htoken, hwhole⟩]

/-- A login or a registration that leads on to its storage has stored the text of its reply. As
long as this is the token of the storage, nothing is sent about the storage if the text cannot be
written, and what is sent bears the text unless it is empty. This is the body of the reply when the
body can be written, is not empty, and is UTF-8. -/
theorem issued_token_is_borne_iff {o : Options} (hbase : o.baseUrl = .ok g.backend.base)
    (before : List Step) {s : Step}
    (hsubject : Gateway.subject? s.request = some (action, storage))
    (htoken : action.asksToken = true)
    (hfound : (serve g (run g [] before) s).1.status = 302) :
    ∃ r, g.finalReply? s.service (Session.token? (run g [] before).jar storage) s.request = some r ∧
      r.status = 200 ∧ r.isWhole = true ∧
      ∀ (between : List Step) (req : Inbound) (call : Call) (next : Continuation)
        (deliveries : List Delivery),
        Session.token? (run g [] (before ++ s :: between)).jar storage =
          Session.token? (run g [] (before ++ [s])).jar storage →
        g.plan? req = some (.ask storage call next) →
        let text := Utf8.ofString (Utf8.toStringLossy r.body)
        let sent := (serve g (run g [] (before ++ s :: between)) ⟨req, .scripted deliveries⟩).2
        (sent = [] ↔ Header.isWritable text = false) ∧
        (∀ first rest, sent = first :: rest → first.authorization = g.ownAuthorization ++
          if text = [] then [] else [Bytes.ofAscii "Bearer " ++ text]) ∧
        ((∃ first rest, sent = first :: rest ∧
            Bytes.ofAscii "Bearer " ++ r.body ∈ first.authorization) ↔
          Header.isWritable r.body = true ∧ r.body ≠ [] ∧ (Utf8.toString? r.body).isSome) := by
  have hsubject' : Gateway.subject? ((run g [] before).request s.request) =
      some (action, storage) := (subject?_request _ _).trans hsubject
  obtain ⟨hnamed, r, hreply, hstatus, hwhole⟩ :=
    Gateway.exists_reply_of_found hsubject' htoken hfound
  rw [Gateway.finalReply?, plan?_request, ← Gateway.finalReply?, Store.jar_request] at hreply
  have hread := Gateway.isReadable_of_finalReply? hbase hreply
  refine ⟨r, hreply, hstatus, hwhole, fun between req call next deliveries hkept hplan => ?_⟩
  rw [token?_of_entry before hsubject htoken hnamed hreply hstatus hwhole,
    ← Store.jar_request _ req] at hkept
  obtain ⟨hnothing, hborne⟩ := Gateway.sent_of_text hbase hread
    ((plan?_request g _ req).trans hplan) hkept deliveries
  exact ⟨hnothing, hborne, bears_body_iff hnothing hborne⟩

/-- A reply that ends in a line feed is taken for a token, and then nothing is sent any more. -/
theorem issued_token_is_borne_iff_line_feed :
    let o : Options := { gateway := "http://s/" }
    let g : Gateway :=
      ⟨⟨⟨"http", some { host := .domain "s" }, .segments [""], none, none⟩, []⟩, ⟨60, false⟩, 0⟩
    let login : Step :=
      { request :=
          { method := "POST"
            target := Bytes.ofAscii "/login/a/"
            headers := [.ofText "content-type" "application/x-www-form-urlencoded"]
            body := ⟨[.data (Bytes.ofAscii "password=p")], []⟩ }
        service := .scripted [.reply { status := 200, body := Bytes.ofAscii "t\n" }] }
    let listing : Inbound := { target := Bytes.ofAscii "/a/" }
    o.baseUrl = .ok g.backend.base ∧ Gateway.subject? login.request = some (.within .login, "a") ∧
      (serve g (run g [] []) login).1.status = 302 ∧
      (∃ call next, g.plan? listing = some (.ask "a" call next)) ∧
      ∀ deliveries, (serve g (run g [] [login]) ⟨listing, .scripted deliveries⟩).2 = [] := by
  intro o g login listing
  have hbase : o.baseUrl = .ok g.backend.base := by decide +kernel
  have hsubject : Gateway.subject? login.request = some (.within .login, "a") := by decide +kernel
  have hfound : (serve g (run g [] []) login).1.status = 302 := by decide +kernel
  have hlisting : Gateway.subject? listing = some (.within .view, "a") := by decide +kernel
  have hreply : g.finalReply? login.service (Session.token? (run g [] []).jar "a") login.request =
      some { status := 200, body := Bytes.ofAscii "t\n" } := by decide +kernel
  obtain ⟨-, -, scope, -, -, hstorage, hplan⟩ := Gateway.exists_scope_of_subject? hlisting
  have hask : g.plan? listing = some (.ask "a" (.get "list" scope.values)
      fun outcome jar => (jar, outcome.bind (Files.showListing scope))) := by
    rw [hplan, ← hstorage]
    rfl
  obtain ⟨r, hr, -, -, hsent⟩ := issued_token_is_borne_iff hbase [] hsubject rfl hfound
  cases hreply.symm.trans hr
  refine ⟨hbase, hsubject, hfound, ⟨_, _, hask⟩, fun deliveries => ?_⟩
  exact (hsent [] listing _ _ deliveries rfl hask).1.mpr (by decide +kernel)

end Browser

end StorageGateway
