import StorageGateway.Proofs.Gateway.Subject
import StorageGateway.Proofs.Service.Chain

/-!
# Failures of a call

A call fails when it gets no reply, or when the last reply is not a success. What such a reply says
is known from its status, from whether its body is whole, and from what the body reads as, in this
order. A report of the service is passed on as it is, everything else is reported as a fault of the
gateway. The pages of login and registration show the fault on their form instead. A failure never
changes a cookie.

## Main definitions

* `Exchange.Fails`: how a call fails.
* `Response.complete`: the response that a text is sent as.

## Main results

* `Exchange.fails_iff_settle`: the failures are those that the gateway finds.
* `Exchange.existsUnique_fails_iff`: a call fails, in one way, unless it ends with a success.
* `Gateway.failures_are_replayed`: the answer to a request whose call fails.
-/

namespace StorageGateway

namespace Exchange

/-- How a call fails that ends with a last reply or without one. -/
inductive Fails : Option Reply → Fault → Prop
  | noReply : Fails none ⟨.internal, "do request"⟩
  | reported {r f} (status : r.status = 400) (whole : r.isWhole = true)
      (report : Fault.parse? r.body = some f) : Fails (some r) f
  | brokenReport {r} (status : r.status = 400) (broken : r.isWhole = false) :
      Fails (some r) ⟨.internal, "read error body"⟩
  | malformedReport {r} (status : r.status = 400) (whole : r.isWhole = true)
      (malformed : Fault.parse? r.body = none) : Fails (some r) ⟨.internal, "json decode"⟩
  | otherStatus {r} (noSuccess : r.status ≠ 200) (noReport : r.status ≠ 400) :
      Fails (some r) ⟨.internal, "invalid status code"⟩

/-- The failures are those that the gateway finds. -/
theorem fails_iff_settle {final : Option Reply} {f : Fault} :
    Fails final f ↔ settle final = .error f := by
  constructor
  · intro h
    cases h with
    | noReply => rfl
    | @reported r _ hstatus hwhole hreport => simp [settle, reported, hstatus, hwhole, hreport]
    | brokenReport hstatus hbroken => simp [settle, reported, hstatus, hbroken, Cause.fault]
    | malformedReport hstatus hwhole hmalformed =>
      simp [settle, reported, hstatus, hwhole, hmalformed, Cause.fault]
    | otherStatus hsuccess hreport => simp [settle, hsuccess, hreport, Cause.fault]
  · intro h
    cases final with
    | none =>
      cases h
      exact .noReply
    | some r =>
      rw [settle] at h
      split at h
      · cases h
      · next hsuccess =>
        split at h
        · next hstatus =>
          obtain rfl := Except.error.inj h
          rw [reported]
          cases hwhole : r.isWhole with
          | false => exact .brokenReport hstatus hwhole
          | true =>
            cases hparse : Fault.parse? r.body with
            | none => exact .malformedReport hstatus hwhole hparse
            | some f => exact .reported hstatus hwhole hparse
        · next hreport =>
          cases h
          exact .otherStatus hsuccess hreport

/-- A call fails, in one way, unless its last reply is a success. -/
theorem existsUnique_fails_iff {final : Option Reply} :
    (∃! f, Fails final f) ↔ ∀ r, final = some r → r.status ≠ 200 := by
  constructor
  · rintro ⟨f, hfails, -⟩ r hfinal hstatus
    have hsuccess := settle_eq_ok_iff.mpr ⟨hfinal, hstatus⟩
    rw [fails_iff_settle.mp hfails] at hsuccess
    cases hsuccess
  · intro hfinal
    cases hsettle : settle final with
    | ok r =>
      obtain ⟨hr, hstatus⟩ := settle_eq_ok_iff.mp hsettle
      exact absurd hstatus (hfinal r hr)
    | error f =>
      refine ⟨f, fails_iff_settle.mpr hsettle, fun f' hfails => ?_⟩
      exact Except.error.inj ((fails_iff_settle.mp hfails).symm.trans hsettle)

end Exchange

namespace Response

/-- The response that a text is sent as, with its length and the fields that protect a page. -/
def complete (method : String) (status : Nat) (mediaType text : String) : Response :=
  { status
    headers :=
      [.ofText "content-type" mediaType,
        .ofText "content-length" (toString (Utf8.ofString text).length),
        .ofText "x-frame-options" "DENY", .ofText "x-content-type-options" "nosniff"]
    body := .sized (if method = "HEAD" then [] else Utf8.ofString text) }

end Response

namespace Account

theorem loginMessage_eq (f : Fault) : loginMessage f =
    if f.kind = .notFound ∨ f.kind = .mismatch then "Invalid storage name or password"
    else f.description := by
  rw [loginMessage]
  cases f.kind <;> rfl

theorem registerMessage_eq (f : Fault) : registerMessage f =
    if f.kind = .alreadyExists then "storage with this name already exists"
    else f.description := by
  rw [registerMessage]
  cases f.kind <;> rfl

end Account

namespace Gateway

variable {g : Gateway} {req : Inbound} {first : Request}

theorem respond_ofText (g : Gateway) (method : String) (status : Nat) (mediaType text : String) :
    g.respond method [] (.ok (.ofText status mediaType text)) =
      .complete method status mediaType text := by
  rw [respond, Response.finish, Response.complete]
  by_cases hmethod : method = "HEAD"
  · simp only [hmethod, decide_true, if_true]
    rfl
  · simp only [hmethod, decide_false, Bool.false_eq_true, if_false]
    rfl

/-- The requests that lead to a call are those from which the service receives something. -/
theorem reaches_iff : g.Reaches req first ↔
    ∃ service rest, (g.serve service req).2 = first :: rest := by
  constructor
  · rintro ⟨storage, call, next, hplan, hfirst⟩
    refine ⟨.scripted [], [], ?_⟩
    rw [serve_of_plan? hplan]
    simp only [Plan.run, hfirst]
    rfl
  · rintro ⟨service, rest, hreceived⟩
    rcases g.received_serve service req with hnone | ⟨sent, hreaches, hall⟩
    · rw [hnone] at hreceived
      cases hreceived
    · obtain ⟨rfl, -⟩ := Exchange.received_send (hall.symm.trans hreceived)
      exact hreaches

/-- A request that leads to a call is an errand of its storage with one call. -/
theorem Reaches.exists_errand (h : g.Reaches req first) :
    ∃ (action : Action) (storage : String) (call : Call) (sequel : Sequel),
      subject? req = some (action, storage) ∧ call.IsAbout storage action ∧
      sequel.Suits storage action ∧
      ∀ service, (g.serve service req).1 =
        let result := Exchange.settle (Exchange.send service first).reply
        g.respond req.method (Session.marks storage (sequel.mark result))
          (sequel.outcome storage result) := by
  obtain ⟨storage', call', next, hplan, hfirst⟩ := h
  cases hsubject : subject? req with
  | none =>
    rcases g.isAnsweredAtOnce_of_no_subject hsubject with hnone | ⟨outcome, -, hreply⟩
    · rw [hnone] at hplan
      cases hplan
    · rw [hreply] at hplan
      cases hplan
  | some subject =>
    obtain ⟨action, storage⟩ := subject
    obtain ⟨e, hsuits, heplan, hserve⟩ := g.serve_subject hsubject
    have hask := Option.some.inj (heplan.symm.trans hplan)
    cases hsuits with
    | answer => cases hask
    | forget => cases hask
    | @ask call sequel _ habout hsequel =>
      obtain ⟨rfl, rfl, -⟩ := Plan.ask.inj hask
      refine ⟨action, storage, call, sequel, rfl, habout, hsequel, fun service => ?_⟩
      rw [hserve service req rfl, Errand.settle, Backend.exchange?, ← Backend.request?_eq, hfirst]
      rfl

/-- The answer to a request whose call fails. A report of the service is passed on with its code
and its words, and any other failure is reported in the words of the gateway. On the pages of login
and registration the words are shown on the form, except for what must not be told apart there.
No cookie changes. -/
theorem failures_are_replayed (h : g.Reaches req first) :
    ∃ action storage, subject? req = some (action, storage) ∧ action.endpoint?.isSome = true ∧
      ∀ (service : Service) (f : Fault), Exchange.Fails (Exchange.send service first).reply f →
        (action ≠ .register → action ≠ .within .login → (g.serve service req).1 =
          .complete req.method f.kind.status "application/json" f.json) ∧
        (action = .within .login → (g.serve service req).1 =
          .complete req.method 200 "text/html; charset=utf-8" (Html.render (Page.login
            { storage
              common := if f.kind = .notFound ∨ f.kind = .mismatch
                then "Invalid storage name or password" else f.description }))) ∧
        (action = .register → (g.serve service req).1 =
          .complete req.method 200 "text/html; charset=utf-8" (Html.render (Page.register
            { storage
              common := if f.kind = .alreadyExists
                then "storage with this name already exists" else f.description }))) := by
  obtain ⟨action, storage, call, sequel, hsubject, habout, hsequel, hserve⟩ := h.exists_errand
  have hasked : action.endpoint?.isSome = true := by rw [habout.endpoint_eq, Option.isSome_some]
  refine ⟨action, storage, hsubject, hasked, fun service f hfails => ?_⟩
  have hanswer : (g.serve service req).1 =
      g.respond req.method [] (sequel.outcome storage (.error f)) := by
    simp only [hserve, Exchange.fails_iff_settle.mp hfails, Sequel.mark_error, Session.marks_none]
  rw [hanswer]
  cases hsequel with
  | present hnotToken =>
    refine ⟨fun _ _ => g.respond_ofText _ _ _ _, ?_, ?_⟩
    · rintro rfl
      cases hnotToken
    · rintro rfl
      cases hnotToken
  | enter htoken =>
    refine ⟨fun hregister hlogin => ?_, ?_, ?_⟩
    · rw [Action.asksToken, Bool.or_eq_true, decide_eq_true_eq, decide_eq_true_eq] at htoken
      exact absurd htoken (not_or.mpr ⟨hregister, hlogin⟩)
    · rintro rfl
      rw [← respond_ofText, ← Account.loginMessage_eq]
      rfl
    · rintro rfl
      rw [← respond_ofText, ← Account.registerMessage_eq]
      rfl

/-- A listing of a storage that is gone is reported as the service reports it. -/
theorem failures_are_replayed_gone :
    let g : Gateway :=
      ⟨⟨⟨"http", some { host := .domain "s" }, .segments [""], none, none⟩, []⟩, ⟨60, false⟩, 0⟩
    let req : Inbound := { target := Bytes.ofAscii "/a/" }
    let report : Reply :=
      { status := 400
        body := Bytes.ofAscii "\x7b\"description\":\"gone\",\"code\":\"not_exist\"\x7d" }
    ∃ first, g.Reaches req first ∧ (g.serve (.scripted [.reply report]) req).1 =
      .complete "GET" 404 "application/json"
        "\x7b\"code\":\"not_exist\",\"description\":\"gone\"\x7d" := by
  intro g req report
  have hsubject : subject? req = some (.within .view, "a") := by decide +kernel
  have hsent : (g.serve (.scripted []) req).2 ≠ [] := by decide +kernel
  obtain ⟨first, rest, hcons⟩ := List.exists_cons_of_ne_nil hsent
  have hreaches : g.Reaches req first := reaches_iff.mpr ⟨_, rest, hcons⟩
  have hfails : Exchange.Fails (Exchange.send (.scripted [.reply report]) first).reply
      ⟨.notFound, "gone"⟩ := .reported rfl rfl (by decide +kernel)
  obtain ⟨action, storage, hsubject', -, hanswer⟩ := failures_are_replayed hreaches
  cases hsubject.symm.trans hsubject'
  have hjson : (Fault.mk .notFound "gone").json =
      "\x7b\"code\":\"not_exist\",\"description\":\"gone\"\x7d" := by decide +kernel
  refine ⟨first, hreaches, hjson ▸ (hanswer _ _ hfails).1 ?_ ?_⟩
  · simp
  · simp

end Gateway

end StorageGateway
