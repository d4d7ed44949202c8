import StorageGateway.Proofs.Http.Form
import StorageGateway.Proofs.Multipart.Refusal
import StorageGateway.Proofs.Route.Captures
import StorageGateway.Proofs.Session.Bearer

/-!
# What a call carries

Where a call goes is decided by the base URL and the action alone. What the browser has sent, names
from the path and fields of a form, is carried in the parameters of the call and nowhere else, and
is read there as it was sent, whatever characters it holds: no name can pass for a further
parameter, for a flag or for a part of the path. There is a call only when everything that the
action asks for has been sent.

## Main definitions

* `Action.formFields?`, `Action.requiredFields`, `Inbound.Suffices`: what an action asks for.
* `Action.isQuestion`, `Action.method`: whether an action asks or orders.
* `Action.parameters`: the parameters of the call of an action.
* `Call.IsFor`: the call of an action.

## Main results

* `Gateway.ask_cases`: every plan with a call makes the call of its action.
* `Gateway.first_request_carries_parameters`: the request that carries the call.
-/

namespace StorageGateway

/-! ### What an action asks for -/

/-- The fields of the form that an action asks for. -/
def Action.formFields? : Action → Option (List String)
  | .register => some ["name", "password"]
  | .within .login => some ["password"]
  | .within .remove => some ["fileName"]
  | .within .shareText => some ["title", "body"]
  | _ => none

/-- The fields that may not be missing or empty. -/
def Action.requiredFields : Action → List String
  | .register => ["name"]
  | .within .login => ["password"]
  | .within .remove => ["fileName"]
  | .within .shareText => ["title", "body"]
  | _ => []

/-- The value of a field of the form that a request carries. -/
def Inbound.submitted (req : Inbound) (name : String) : String :=
  Form.value (FormData.decode (Chunk.allBytes req.body.chunks)) name

/-- Requests that hold what an action asks for. -/
structure Inbound.Suffices (g : Gateway) (action : Action) (req : Inbound) : Prop where
  form : ∀ names, action.formFields? = some names →
    ¬Form.IsUnusable req.headers req.body.chunks names
  fields : ∀ name ∈ action.requiredFields, req.submitted name ≠ ""
  files : action = .within .upload →
    ¬Multipart.IsUnusable req.headers g.uploadLimit req.body

/-! ### Actions and their calls -/

/-- The parameters for the scope of a call. Only a storage that has a name has a permanent area. -/
def Scope.Flags.values (flags : Scope.Flags) (storage file : String) : List (String × String) :=
  [("storage", storage)] ++ (if flags.isPublic then [("public", "true")] else []) ++
    (if flags.isPermanent ∧ storage ≠ "" then [("permanent", "true")] else []) ++ [("file", file)]

namespace Action

/-- Whether an action asks a question; otherwise its call is an order. -/
def isQuestion : Action → Bool
  | .within .index | .within .view | .within .download | .within (.downloadNamed _) => true
  | _ => false

/-- The method of the call of an action. -/
def method (action : Action) : String := if action.isQuestion then "GET" else "POST"

/-- The parameters of the call of an action, from the names in the path and the fields of the
form. -/
def parameters (flags : Scope.Flags) (captures : Route.Captures) (req : Inbound) :
    Action → List (String × String)
  | .register => [("storage", req.submitted "name"), ("password", req.submitted "password")]
  | .within action =>
    let storage := (captures.text? "storage").getD ""
    let file := (captures.text? "file").getD ""
    match action with
    | .index | .view | .download => flags.values storage file
    | .downloadNamed name => flags.values storage name
    | .remove => flags.values storage (req.submitted "fileName")
    | .login => flags.values storage file ++ [("password", req.submitted "password")]
    | .shareText => flags.values storage file ++
        [("title", req.submitted "title"), ("body", req.submitted "body")]
    | _ => []
  | _ => []

end Action

/-- The call of an action. The call that carries files has no parameters. -/
inductive Call.IsFor (flags : Scope.Flags) (captures : Route.Captures) (req : Inbound)
    (action : Action) : Call → Prop
  | question {endpoint} (asked : action.endpoint? = some endpoint)
      (question : action.isQuestion = true) :
      IsFor flags captures req action (.get endpoint (action.parameters flags captures req))
  | order {endpoint} (asked : action.endpoint? = some endpoint)
      (order : action.isQuestion = false) (notUpload : action ≠ .within .upload) :
      IsFor flags captures req action (.postForm endpoint (action.parameters flags captures req))
  | files {endpoint parts} (asked : action.endpoint? = some endpoint)
      (upload : action = .within .upload) :
      IsFor flags captures req action (.postFiles endpoint parts)

variable {flags : Scope.Flags} {captures : Route.Captures} {req : Inbound} {action : Action}

theorem Call.IsFor.endpoint_eq {call : Call} (h : call.IsFor flags captures req action) :
    action.endpoint? = some call.endpoint := by
  cases h with
  | question hasked => exact hasked
  | order hasked => exact hasked
  | files hasked => exact hasked

theorem Call.IsFor.method_eq {call : Call} (h : call.IsFor flags captures req action) :
    call.method = action.method := by
  cases h with
  | question _ hquestion => rw [Action.method, if_pos hquestion]; rfl
  | order _ horder => rw [Action.method, horder]; rfl
  | files _ hupload => rw [Action.method, hupload]; rfl

/-- The parameters of a scope that stems from a path. -/
theorem Scope.values_withFile {s : Scope} (hpublic : s.isPublic = flags.isPublic)
    (hpermanent : s.isPermanent = (!s.storage.isEmpty && flags.isPermanent)) (name : String) :
    (s.withFile name).values = flags.values s.storage name := by
  have harea : s.isPermanent = true ↔ flags.isPermanent = true ∧ s.storage ≠ "" := by
    rw [hpermanent]
    simp [and_comm]
  simp only [values, withFile, Flags.values, hpublic, harea]
  rfl

namespace Gateway

variable {g : Gateway} {storage : String} {call : Call} {next : Continuation}

/-- The route of an action. -/
theorem exists_route_of_action? (h : action? req = some (action, flags, captures)) :
    ∃ r ∈ Route.table, r.flags = flags ∧ (r.get = some action ∨ r.post = some action) ∧
      route? Route.table req = some (r, captures) ∧
      captures.map Prod.fst = Route.Pattern.names r.pattern := by
  obtain ⟨⟨r, captures'⟩, hroute, h⟩ := Option.bind_eq_some_iff.mp h
  obtain ⟨action', haction, heq⟩ := Option.map_eq_some_iff.mp h
  cases heq
  obtain ⟨hmem, hmatch⟩ := Route.select?_eq_some hroute
  exact ⟨r, hmem, rfl, Route.action?_eq_some haction, hroute, Route.names_matchSegments? hmatch⟩

/-- A form that has been read, and whose required fields are not empty, suffices. -/
theorem suffices_of_read {names fields : List String} (hnames : action.formFields? = some names)
    (hread : Form.read req.headers req.body.chunks names = .ok fields)
    (hrequired : ∀ name ∈ action.requiredFields, req.submitted name ≠ "") :
    req.Suffices g action where
  form names' hnames' := by
    obtain rfl := Option.some.inj (hnames.symm.trans hnames')
    exact (Form.read_eq_ok_iff.mp hread).1
  fields := hrequired
  files hupload := by
    rw [hupload] at hnames
    cases hnames

/-- A question asks for nothing but a path. -/
theorem suffices_of_question (h : action.isQuestion = true) : req.Suffices g action := by
  have hnothing : action.formFields? = none ∧ action.requiredFields = [] ∧
      action ≠ .within .upload := by
    rw [Action.isQuestion.eq_def] at h
    split at h <;> first | exact absurd h Bool.false_ne_true | exact ⟨rfl, rfl, by simp⟩
  obtain ⟨hfields, hrequired, hupload⟩ := hnothing
  refine ⟨fun names hnames => ?_, fun name hname => ?_, fun h => absurd h hupload⟩
  · rw [hfields] at hnames
    cases hnames
  · rw [hrequired] at hname
    cases hname

/-- The fields of a form that has been read. -/
theorem fields_eq {names fields : List String}
    (h : Form.read req.headers req.body.chunks names = .ok fields) :
    fields = names.map req.submitted :=
  (Form.read_eq_ok_iff.mp h).2.symm

/-- A plan that reads a form first makes its call with the fields that were submitted. -/
theorem read_of_ask {names : List String} {plan : List String → Plan}
    (h : (match Form.read req.headers req.body.chunks names with
      | .error r => Plan.refuse r.fault
      | .ok fields => plan fields) = .ask storage call next) :
    Form.read req.headers req.body.chunks names = .ok (names.map req.submitted) ∧
      plan (names.map req.submitted) = .ask storage call next := by
  cases hread : Form.read req.headers req.body.chunks names with
  | error r =>
    rw [hread] at h
    cases h
  | ok fields =>
    obtain rfl := fields_eq hread
    rw [hread] at h
    exact ⟨rfl, h⟩

theorem ask_register (hplan : Account.register req = .ask storage call next) :
    call.IsFor flags captures req .register ∧ req.Suffices g .register := by
  rw [Account.register] at hplan
  obtain ⟨hread, hplan⟩ := read_of_ask hplan
  dsimp only at hplan
  split at hplan
  · cases hplan
  · next hname =>
    cases hplan
    refine ⟨.order rfl rfl (by decide), suffices_of_read rfl hread ?_⟩
    simpa [Action.requiredFields] using hname

section Within

variable {s : Scope}

/-- The parameters of a call are those of the scope of its request. -/
theorem values_of_ofCaptures (hnames : (captures.map Prod.fst).Nodup)
    (hscope : Scope.ofCaptures flags captures = .ok s) (name : String) :
    (s.withFile name).values = flags.values ((captures.text? "storage").getD "") name := by
  obtain ⟨hstorage, -, hpublic, hpermanent⟩ := Scope.ofCaptures_eq_ok hnames hscope
  rw [Scope.values_withFile hpublic hpermanent, hstorage]

theorem values_eq_of_ofCaptures (hnames : (captures.map Prod.fst).Nodup)
    (hscope : Scope.ofCaptures flags captures = .ok s) :
    s.values = flags.values ((captures.text? "storage").getD "")
      ((captures.text? "file").getD "") := by
  obtain ⟨-, hfile, -⟩ := Scope.ofCaptures_eq_ok hnames hscope
  rw [← hfile, ← values_of_ofCaptures hnames hscope]
  rfl

theorem ask_upload (hplan : Files.upload g.uploadLimit s req = .ask storage call next) :
    call.IsFor flags captures req (.within .upload) ∧ req.Suffices g (.within .upload) := by
  rw [Files.upload] at hplan
  split at hplan
  · cases hplan
  · next hread =>
    cases hplan
    refine ⟨.files rfl rfl, ⟨by simp [Action.formFields?], by simp [Action.requiredFields],
      fun _ huse => ?_⟩⟩
    obtain ⟨f, hf⟩ := Multipart.exists_fault_iff.mpr huse
    rw [hread] at hf
    cases hf

variable (hnames : (captures.map Prod.fst).Nodup) (hscope : Scope.ofCaptures flags captures = .ok s)

include hnames hscope

theorem ask_login (hplan : Account.login s req = .ask storage call next) :
    call.IsFor flags captures req (.within .login) ∧ req.Suffices g (.within .login) := by
  rw [Account.login] at hplan
  obtain ⟨hread, hplan⟩ := read_of_ask hplan
  dsimp only at hplan
  split at hplan
  · cases hplan
  · next hmessage =>
    cases hplan
    rw [values_eq_of_ofCaptures hnames hscope]
    refine ⟨.order rfl rfl (by decide), suffices_of_read rfl hread ?_⟩
    simp only [Action.requiredFields, List.forall_mem_singleton]
    intro hempty
    simp [hempty, Account.loginEntry, Page.Entry.hasMessage] at hmessage

theorem ask_remove (hplan : Files.remove s req = .ask storage call next) :
    call.IsFor flags captures req (.within .remove) ∧ req.Suffices g (.within .remove) := by
  rw [Files.remove] at hplan
  obtain ⟨hread, hplan⟩ := read_of_ask hplan
  dsimp only at hplan
  split at hplan
  · cases hplan
  · next hname =>
    cases hplan
    rw [values_of_ofCaptures hnames hscope]
    refine ⟨.order rfl rfl (by decide), suffices_of_read rfl hread ?_⟩
    simpa [Action.requiredFields] using hname

theorem ask_shareText (hplan : Files.shareText s req = .ask storage call next) :
    call.IsFor flags captures req (.within .shareText) ∧ req.Suffices g (.within .shareText) := by
  rw [Files.shareText] at hplan
  obtain ⟨hread, hplan⟩ := read_of_ask hplan
  dsimp only at hplan
  split at hplan
  · cases hplan
  · next htexts =>
    cases hplan
    rw [values_eq_of_ofCaptures hnames hscope]
    refine ⟨.order rfl rfl (by decide), suffices_of_read rfl hread ?_⟩
    simpa [Action.requiredFields] using htexts

theorem ask_within {action : StorageAction}
    (hplan : g.storagePlan s req action = .ask storage call next) :
    call.IsFor flags captures req (.within action) ∧ req.Suffices g (.within action) := by
  have hown := values_eq_of_ofCaptures hnames hscope
  cases action with
  | loginPage => cases hplan
  | logout => cases hplan
  | index =>
    cases hplan
    rw [hown]
    exact ⟨.question rfl rfl, suffices_of_question rfl⟩
  | view =>
    cases hplan
    rw [hown]
    exact ⟨.question rfl rfl, suffices_of_question rfl⟩
  | download =>
    cases hplan
    rw [hown]
    exact ⟨.question rfl rfl, suffices_of_question rfl⟩
  | downloadNamed name =>
    cases hplan
    rw [values_of_ofCaptures hnames hscope]
    exact ⟨.question rfl rfl, suffices_of_question rfl⟩
  | upload => exact ask_upload hplan
  | login => exact ask_login hnames hscope hplan
  | remove => exact ask_remove hnames hscope hplan
  | shareText => exact ask_shareText hnames hscope hplan

end Within

/-- Every plan with a call makes the call of its action, for a request that holds what the action
asks for. -/
theorem ask_cases (haction : action? req = some (action, flags, captures))
    (hplan : g.plan flags captures req action = .ask storage call next) :
    call.IsFor flags captures req action ∧ req.Suffices g action := by
  cases action with
  | home => cases hplan
  | resource => cases hplan
  | icon => cases hplan
  | registerPage => cases hplan
  | register => exact ask_register hplan
  | within action =>
    obtain ⟨r, hr, -, -, -, hnames⟩ := exists_route_of_action? haction
    rw [plan] at hplan
    cases hscope : Scope.ofCaptures flags captures with
    | error f =>
      rw [hscope] at hplan
      cases hplan
    | ok s =>
      rw [hscope] at hplan
      exact ask_within (hnames ▸ Route.nodup_names r hr) hscope hplan

/-! ### The first request -/

/-- The first request that is received carries the call of the action. -/
theorem exists_call_of_received {o : Options} (hbase : o.baseUrl = .ok g.backend.base)
    {service : Service} {first : Request} {rest : List Request}
    (h : (g.serve service req).2 = first :: rest) :
    ∃ action flags captures call address token,
      action? req = some (action, flags, captures) ∧ call.IsFor flags captures req action ∧
      Backend.endpoint? g.backend.base call.endpoint = .ok address ∧
      address.scheme = g.backend.base.scheme ∧ address.authority = g.backend.base.authority ∧
      first = g.backend.requestTo address call token := by
  rcases g.received_serve service req with
    hnone | ⟨sent, ⟨storage, call, next, hplan, hsent⟩, hall⟩
  · rw [hnone] at h
    cases h
  · obtain ⟨⟨action, flags, captures⟩, haction, hplan⟩ := Option.map_eq_some_iff.mp hplan
    obtain ⟨hcall, -⟩ := ask_cases haction hplan
    have hprinted := Action.isPrinted_endpoint hcall.endpoint_eq
    rw [Backend.request?_eq] at hsent
    obtain ⟨address, haddress, rfl⟩ := Backend.exists_address_of_requestWith? hsent
    obtain ⟨address', haddress', hscheme, hauthority, -⟩ := Backend.exists_endpoint? hbase
      (Backend.isReadable_of_endpoint? hbase hprinted haddress) hprinted
    cases haddress.symm.trans haddress'
    obtain ⟨rfl, -⟩ := Exchange.received_send (hall.symm.trans h)
    exact ⟨action, flags, captures, call, address, _, haction, hcall, haddress, hscheme,
      hauthority, rfl⟩

/-- A call goes to the host of the base URL, with a method and a path that depend on the base URL
and the action only. The parameters of a question stand in the query behind those of the address,
those of an order are its form, and both are read as they were sent. -/
theorem first_request_carries_parameters {o : Options} (hbase : o.baseUrl = .ok g.backend.base)
    {service : Service} {first : Request} {rest : List Request}
    (h : (g.serve service req).2 = first :: rest) :
    ∃ action flags captures endpoint address,
      action? req = some (action, flags, captures) ∧ action.endpoint? = some endpoint ∧
      Backend.endpoint? g.backend.base endpoint = .ok address ∧
      first.url.scheme = g.backend.base.scheme ∧
      first.url.authority.map (·.host) = g.backend.base.authority.map (·.host) ∧
      first.url.authority.bind (·.port) = g.backend.base.authority.bind (·.port) ∧
      first.method = action.method ∧ first.url.path = address.path ∧
      (action.isQuestion = true → first.body = none ∧ first.url.parameters =
        address.parameters ++ action.parameters flags captures req) ∧
      (action.isQuestion = false → first.url.query = address.query ∧
        (action ≠ .within .upload →
          first.contentType = some (Bytes.ofAscii "application/x-www-form-urlencoded") ∧
          ∃ body, first.body = some body ∧
            FormData.decode body = action.parameters flags captures req)) := by
  obtain ⟨action, flags, captures, call, address, token, haction, hcall, haddress, hscheme,
    hauthority, rfl⟩ := exists_call_of_received hbase h
  obtain ⟨hpath, hscheme', hhost, hport⟩ := g.backend.place_requestTo address call token
  have hmethod : (g.backend.requestTo address call token).method = action.method := by
    rw [← hcall.method_eq]
    cases hpayload : call.payload <;> simp only [Backend.requestTo, hpayload, Payload.request]
  refine ⟨action, flags, captures, call.endpoint, address, haction, hcall.endpoint_eq, haddress,
    hscheme'.trans hscheme, hauthority ▸ hhost, hauthority ▸ hport, hmethod, hpath, ?_, ?_⟩
  · intro hquestion
    cases hcall with
    | question => exact ⟨rfl, g.backend.parameters_requestTo address _ token⟩
    | order _ horder => exact absurd hquestion (by rw [horder]; exact Bool.false_ne_true)
    | files _ hupload =>
      rw [hupload] at hquestion
      cases hquestion
  · intro horder
    have hquery (hnone : call.query = []) :
        (g.backend.requestTo address call token).url.query = address.query := by
      rw [Backend.url_requestTo, hnone]
      split <;> rfl
    cases hcall with
    | question _ hquestion => exact absurd hquestion (by rw [horder]; exact Bool.false_ne_true)
    | order => exact ⟨hquery rfl, fun _ => ⟨rfl, _, rfl, FormData.decode_encode _⟩⟩
    | files _ hupload => exact ⟨hquery rfl, fun hne => absurd hupload hne⟩

/-- A storage whose name looks like a parameter is asked for under this name. -/
theorem first_request_carries_parameters_mark :
    let o : Options := { gateway := "http://s/" }
    let g : Gateway :=
      ⟨⟨⟨"http", some { host := .domain "s" }, .segments [""], none, none⟩, []⟩, ⟨60, false⟩, 0⟩
    let req : Inbound := { target := Bytes.ofAscii "/a%26public=true/permanent/%3F%2F/" }
    o.baseUrl = .ok g.backend.base ∧
      ∃ first rest, (g.serve (.scripted []) req).2 = first :: rest ∧ first.method = "GET" ∧
        first.url.parameters =
          [("storage", "a&public=true"), ("permanent", "true"), ("file", "?/")] := by
  intro o g req
  have hbase : o.baseUrl = .ok g.backend.base := by decide +kernel
  have haction : action? req = some (.within .download, .ofPermanent,
      [("storage", Bytes.ofAscii "a%26public=true"), ("file", Bytes.ofAscii "%3F%2F")]) := by
    decide +kernel
  have hsent : (g.serve (.scripted []) req).2 ≠ [] := by decide +kernel
  obtain ⟨first, rest, hcons⟩ := List.exists_cons_of_ne_nil hsent
  obtain ⟨action, flags, captures, endpoint, address, haction', hendpoint, haddress, -, -, -,
    hmethod, -, hquestion, -⟩ := first_request_carries_parameters hbase hcons
  cases haction.symm.trans haction'
  cases hendpoint
  have haddress' : Backend.endpoint? g.backend.base "file" =
      .ok ⟨"http", some { host := .domain "s" }, .segments ["file", ""], none, none⟩ := by
    decide +kernel
  cases haddress'.symm.trans haddress
  refine ⟨hbase, first, rest, hcons, hmethod, (hquestion rfl).2.trans ?_⟩
  decide +kernel

end Gateway

end StorageGateway
