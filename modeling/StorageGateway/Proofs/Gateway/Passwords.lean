import Mathlib.Data.Option.Basic
import StorageGateway.Proofs.Gateway.Calls

/-!
# Passwords

A password is sent on to the storage service, as a value of the form that asks for a token, and
leaves no other trace. Two requests for a token that agree in everything but the password get the
same answer, whatever the service replies, and their calls differ in the value of that one field
wherever redirects lead them.

## Main definitions

* `FormData.AgreeBut`: named values that agree except for those of one name.
* `Request.AgreeBut`, `Inbound.AgreeBut`, `Plan.AgreeBut`: requests and plans that agree except for
  the values of one name in their forms.

## Main results

* `Exchange.follow_agreeBut`: what comes of two calls that agree so.
* `Gateway.passwords_do_not_show`: what comes of two requests for a token.
-/

namespace StorageGateway

/-- Named values that agree except for the values of one name. -/
def FormData.AgreeBut (name : String) : (fields others : List (String × String)) → Prop :=
  List.Forall₂ fun p q => q.1 = p.1 ∧ (p.1 ≠ name → q.2 = p.2)

/-- Requests to the service that agree except for the values of one name in their forms. -/
structure Request.AgreeBut (name : String) (r other : Request) : Prop where
  rest : { other with body := none } = { r with body := none }
  body : Option.Rel
    (fun bs bs' => FormData.AgreeBut name (FormData.decode bs) (FormData.decode bs'))
    r.body other.body

/-- Requests of a browser that agree except for the values of one name in their forms. Of their
header fields the cookies alone have to be the same. -/
structure Inbound.AgreeBut (name : String) (req other : Inbound) : Prop where
  method : other.method = req.method
  target : other.target = req.target
  cookies : other.jar = req.jar
  fields : FormData.AgreeBut name (FormData.decode (Chunk.allBytes req.body.chunks))
    (FormData.decode (Chunk.allBytes other.body.chunks))

/-- Plans that agree except for the values of one name in the form of their call. -/
inductive Plan.AgreeBut (name : String) : Plan → Plan → Prop
  | answer (change : Cookie.Jar → Cookie.Jar) (outcome : Except Fault Response) :
      AgreeBut name (.answer change outcome) (.answer change outcome)
  | ask (storage endpoint : String) {values others : List (String × String)}
      (agree : FormData.AgreeBut name values others) (next : Continuation) :
      AgreeBut name (.ask storage (.postForm endpoint values) next)
        (.ask storage (.postForm endpoint others) next)

variable {name : String}

namespace FormData.AgreeBut

variable {fields others : List (String × String)}

/-- Two values of that name behind values that are the same. -/
theorem append_value (fields : List (String × String)) (value other : String) :
    AgreeBut name (fields ++ [(name, value)]) (fields ++ [(name, other)]) := by
  induction fields with
  | nil => exact .cons ⟨rfl, fun h => absurd rfl h⟩ .nil
  | cons p fields ih => exact .cons ⟨rfl, fun _ => rfl⟩ ih

/-- Values of another name are the same. -/
theorem value_eq (h : AgreeBut name fields others) {field : String} (hfield : field ≠ name) :
    Form.value others field = Form.value fields field := by
  induction h with
  | nil => rfl
  | @cons p q _ _ hpq _ ih =>
    obtain ⟨hname, hvalue⟩ := hpq
    by_cases hp : p.1 = field
    · have hsame : q.2 = p.2 := hvalue (hp ▸ hfield)
      simp [Form.value, hname, hp, hsame]
    · simpa [Form.value, hname, hp] using ih

end FormData.AgreeBut

/-! ### Two calls -/

theorem Request.AgreeBut.eq {r other : Request} (h : r.AgreeBut name other) :
    other = { r with body := other.body } :=
  congrArg (fun rest : Request => { rest with body := other.body }) h.rest

theorem Request.AgreeBut.url_eq {r other : Request} (h : r.AgreeBut name other) :
    other.url = r.url := by
  rw [h.eq]

namespace Exchange

variable {req other : Request}

theorem redirected?_agreeBut (h : req.AgreeBut name other) (status : Nat) (url : Url) :
    Option.Rel (Request.AgreeBut name) (redirected? status req url)
      (redirected? status other url) := by
  have hother := h.eq
  obtain ⟨-, hbody⟩ := h
  generalize other.body = body at hother hbody
  subst hother
  unfold redirected?
  split
  · exact .some ⟨rfl, .none⟩
  split
  · split
    · exact .some ⟨rfl, hbody⟩
    · exact .none
  · exact .none

theorem next?_agreeBut (h : req.AgreeBut name other) (r : Reply) :
    Option.Rel (Request.AgreeBut name) (next? req r) (next? other r) := by
  unfold next?
  rw [h.url_eq]
  cases location? r with
  | none => exact .none
  | some location =>
    simp only [Option.bind_some]
    cases Url.resolve req.url location with
    | error _ => exact .none
    | ok url => exact redirected?_agreeBut h r.status url

/-- What comes of two calls that agree except for the values of one name. Induction on the
deliveries: a reply leads both to the same place. -/
theorem follow_agreeBut (h : req.AgreeBut name other) (allowance : Nat)
    (deliveries : List Delivery) :
    (follow allowance other deliveries).reply = (follow allowance req deliveries).reply ∧
      List.Forall₂ (Request.AgreeBut name) (follow allowance req deliveries).received
        (follow allowance other deliveries).received := by
  induction deliveries generalizing req other allowance with
  | nil =>
    rw [follow, follow]
    exact ⟨rfl, .cons h .nil⟩
  | cons delivery rest ih =>
    rw [follow.eq_def, follow.eq_def allowance req]
    cases delivery with
    | lost => exact ⟨rfl, .cons h .nil⟩
    | reply r =>
      have hnext := next?_agreeBut h r
      dsimp only
      generalize next? req r = next at hnext ⊢
      generalize next? other r = next' at hnext ⊢
      cases hnext with
      | none => exact ⟨rfl, .cons h .nil⟩
      | some hagree =>
        cases allowance with
        | zero => exact ⟨rfl, .cons h .nil⟩
        | succ allowance =>
          simp only [h.url_eq, hagree.url_eq]
          split
          · exact ⟨(ih hagree allowance).1, .cons h (ih hagree allowance).2⟩
          · exact ⟨rfl, .cons h .nil⟩

/-- What comes of sending two requests that agree except for the values of one name. -/
theorem send_agreeBut (h : req.AgreeBut name other) (service : Service) :
    (send service other).reply = (send service req).reply ∧
      List.Forall₂ (Request.AgreeBut name) (send service req).received
        (send service other).received := by
  cases service with
  | unreachable => exact ⟨rfl, .nil⟩
  | scripted deliveries => exact follow_agreeBut h maxRedirects deliveries

end Exchange

/-- The requests that carry two forms are made or refused alike. -/
theorem Backend.request?_agreeBut (b : Backend) (jar : Cookie.Jar) (storage endpoint : String)
    {values others : List (String × String)} (h : FormData.AgreeBut name values others) :
    (∃ f, b.request? jar storage (.postForm endpoint values) = .error f ∧
      b.request? jar storage (.postForm endpoint others) = .error f) ∨
    ∃ r r', b.request? jar storage (.postForm endpoint values) = .ok r ∧
      b.request? jar storage (.postForm endpoint others) = .ok r' ∧ r.AgreeBut name r' := by
  unfold request? Call.postForm
  cases endpoint? b.base endpoint with
  | error f => exact .inl ⟨f, rfl, rfl⟩
  | ok address =>
    simp only [bind, Except.bind]
    split
    · exact .inl ⟨_, rfl, rfl⟩
    · refine .inr ⟨_, _, rfl, rfl, rfl, .some ?_⟩
      rwa [FormData.decode_encode, FormData.decode_encode]

/-- What comes of two plans that agree except for the values of one name. -/
theorem Plan.AgreeBut.run {p q : Plan} (h : p.AgreeBut name q) (b : Backend) (service : Service)
    (jar : Cookie.Jar) :
    (q.run b service jar).jar = (p.run b service jar).jar ∧
      (q.run b service jar).outcome = (p.run b service jar).outcome ∧
      List.Forall₂ (Request.AgreeBut name) (p.run b service jar).received
        (q.run b service jar).received := by
  cases h with
  | answer change outcome => exact ⟨rfl, rfl, .nil⟩
  | ask storage endpoint hvalues next =>
    rcases b.request?_agreeBut jar storage endpoint hvalues with
      ⟨f, hp, hq⟩ | ⟨r, r', hp, hq, hagree⟩
    · simp only [Plan.run, hp, hq]
      exact ⟨trivial, trivial, .nil⟩
    · obtain ⟨hreply, hreceived⟩ := Exchange.send_agreeBut hagree service
      simp only [Plan.run, hp, hq, hreply]
      exact ⟨trivial, trivial, hreceived⟩

/-! ### Two requests for a token -/

namespace Account

variable {req other : Inbound}

theorem loginEntry_of_ne {storage password : String} (h : password ≠ "") :
    loginEntry storage password =
      { storage
        name := if storage.isEmpty then "Please specify storage name to login" else "" } := by
  simp [loginEntry, h]

/-- The plans of two logins. Once a password is given, the form says nothing about it. -/
theorem login_agreeBut (s : Scope)
    (haccepted : ¬Form.IsUnusable req.headers req.body.chunks ["password"])
    (haccepted' : ¬Form.IsUnusable other.headers other.body.chunks ["password"])
    (hfilled : req.submitted "password" ≠ "") (hfilled' : other.submitted "password" ≠ "") :
    (login s req).AgreeBut "password" (login s other) := by
  have hread : Form.read req.headers req.body.chunks ["password"] =
      .ok [req.submitted "password"] := Form.read_eq_ok_iff.mpr ⟨haccepted, rfl⟩
  have hread' : Form.read other.headers other.body.chunks ["password"] =
      .ok [other.submitted "password"] := Form.read_eq_ok_iff.mpr ⟨haccepted', rfl⟩
  rw [login, login, hread, hread']
  simp only [List.headD_cons, loginEntry_of_ne hfilled, loginEntry_of_ne hfilled']
  split
  · exact .answer _ _
  · exact .ask _ _ (.append_value s.values _ _) _

theorem register_agreeBut (h : req.AgreeBut "password" other)
    (haccepted : ¬Form.IsUnusable req.headers req.body.chunks ["name", "password"])
    (haccepted' : ¬Form.IsUnusable other.headers other.body.chunks ["name", "password"]) :
    (register req).AgreeBut "password" (register other) := by
  have hread : Form.read req.headers req.body.chunks ["name", "password"] =
      .ok [req.submitted "name", req.submitted "password"] :=
    Form.read_eq_ok_iff.mpr ⟨haccepted, rfl⟩
  have hread' : Form.read other.headers other.body.chunks ["name", "password"] =
      .ok [other.submitted "name", other.submitted "password"] :=
    Form.read_eq_ok_iff.mpr ⟨haccepted', rfl⟩
  have hname : other.submitted "name" = req.submitted "name" := h.fields.value_eq (by decide)
  rw [register, register, hread, hread']
  simp only [List.headD_cons, List.drop_succ_cons, List.drop_zero, hname]
  split
  · exact .answer _ _
  · exact .ask _ _ (.append_value [("storage", req.submitted "name")] _ _) _

end Account

namespace Gateway

variable {g : Gateway} {req other : Inbound} {action : Action} {flags : Scope.Flags}
  {captures : Route.Captures}

theorem action?_agreeBut {name : String} (h : req.AgreeBut name other) :
    action? other = action? req := by
  rw [action?, action?, route?, route?, h.target, h.method]

/-- The plans of two requests for a token. -/
theorem plan_agreeBut (htoken : action.asksToken = true) (h : req.AgreeBut "password" other)
    (haccepted : ∀ names, action.formFields? = some names →
      ¬Form.IsUnusable req.headers req.body.chunks names ∧
        ¬Form.IsUnusable other.headers other.body.chunks names)
    (hfilled : req.submitted "password" ≠ "" ∧ other.submitted "password" ≠ "") :
    (g.plan flags captures req action).AgreeBut "password"
      (g.plan flags captures other action) := by
  obtain rfl | rfl : action = .register ∨ action = .within .login := by
    simpa [Action.asksToken] using htoken
  · obtain ⟨hreq, hother⟩ := haccepted _ rfl
    exact Account.register_agreeBut h hreq hother
  · obtain ⟨hreq, hother⟩ := haccepted _ rfl
    rw [plan, plan]
    cases Scope.ofCaptures flags captures with
    | error f => exact .answer _ _
    | ok s => exact Account.login_agreeBut s hreq hother hfilled.1 hfilled.2

/-- Two logins, or two registrations, whose forms are accepted and agree in everything but a
password that is not empty, get the same answer from the same replies. What the service receives
differs in the value of the password in the forms at most. -/
theorem passwords_do_not_show (service : Service)
    (haction : action? req = some (action, flags, captures)) (htoken : action.asksToken = true)
    (h : req.AgreeBut "password" other)
    (haccepted : ∀ names, action.formFields? = some names →
      ¬Form.IsUnusable req.headers req.body.chunks names ∧
        ¬Form.IsUnusable other.headers other.body.chunks names)
    (hfilled : req.submitted "password" ≠ "" ∧ other.submitted "password" ≠ "") :
    (g.serve service other).1 = (g.serve service req).1 ∧
      List.Forall₂ (Request.AgreeBut "password") (g.serve service req).2
        (g.serve service other).2 := by
  have hplan : g.plan? req = some (g.plan flags captures req action) := by
    rw [plan?, haction]
    rfl
  have hplan' : g.plan? other = some (g.plan flags captures other action) := by
    rw [plan?, action?_agreeBut h, haction]
    rfl
  have hplans : (g.plan flags captures req action).AgreeBut "password"
      (g.plan flags captures other action) := plan_agreeBut htoken h haccepted hfilled
  obtain ⟨hjar, houtcome, hreceived⟩ := hplans.run g.backend service req.jar
  rw [serve_of_plan? hplan, serve_of_plan? hplan', h.cookies, h.method]
  simp only [hjar, houtcome]
  exact ⟨trivial, hreceived⟩

/-- Two passwords that are both led to another place. -/
theorem passwords_do_not_show_moved :
    let g : Gateway :=
      ⟨⟨⟨"http", some { host := .domain "s" }, .segments [""], none, none⟩, []⟩, ⟨60, false⟩, 0⟩
    let req (password : String) : Inbound :=
      { method := "POST"
        target := Bytes.ofAscii "/login/a/"
        headers := [.ofText "content-type" "application/x-www-form-urlencoded"]
        body := ⟨[.data (Bytes.ofAscii ("password=" ++ password))], []⟩ }
    let service : Service := .scripted
      [.reply { status := 307, headers := [.ofText "location" "/enter/"] },
        .reply { status := 200, body := Bytes.ofAscii "token" }]
    (g.serve service (req "second%26")).1 = (g.serve service (req "first")).1 ∧
      List.Forall₂ (Request.AgreeBut "password") (g.serve service (req "first")).2
        (g.serve service (req "second%26")).2 ∧
      (g.serve service (req "first")).2.length = 2 := by
  intro g req service
  have haction : action? (req "first") =
      some (.within .login, .ofPublic, [("storage", Bytes.ofAscii "a")]) := by decide +kernel
  have hfields (password : String) (value : String)
      (h : FormData.decode (Bytes.ofAscii ("password=" ++ password)) = [("password", value)]) :
      FormData.decode (Chunk.allBytes (req password).body.chunks) = [("password", value)] := by
    simpa [req, Chunk.allBytes, Chunk.bytes] using h
  have hfirst := hfields "first" "first" (by decide +kernel)
  have hsecond := hfields "second%26" "second&" (by decide +kernel)
  have hagree : (req "first").AgreeBut "password" (req "second%26") := by
    refine ⟨rfl, rfl, rfl, ?_⟩
    rw [hfirst, hsecond]
    exact .append_value [] _ _
  have haccepted : ∀ names, Action.formFields? (.within .login) = some names →
      ¬Form.IsUnusable (req "first").headers (req "first").body.chunks names ∧
        ¬Form.IsUnusable (req "second%26").headers (req "second%26").body.chunks names := by
    rintro names hnames
    cases hnames
    exact ⟨Form.not_isUnusable_iff.mpr (by decide +kernel),
      Form.not_isUnusable_iff.mpr (by decide +kernel)⟩
  obtain ⟨hresponse, hreceived⟩ := passwords_do_not_show (g := g) service haction rfl hagree
    haccepted (by rw [Inbound.submitted, Inbound.submitted, hfirst, hsecond]; decide)
  exact ⟨hresponse, hreceived, by decide +kernel⟩

end Gateway

end StorageGateway
