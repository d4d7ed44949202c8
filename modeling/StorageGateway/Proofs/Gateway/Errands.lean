import StorageGateway.Gateway
import StorageGateway.Proofs.Handler.Errand

/-!
# The errand of a request

A request that is scoped to a storage gives rise to an errand of this storage, whichever action
it asks for; a request that is scoped to none is answered at once. The call of an errand names the
storage in exactly one of its parameters, unless it carries files, which have no parameters.

## Main definitions

* `Action.storage?`: the storage that a request is scoped to.
* `Action.endpoint?`, `Call.IsAbout`: what the calls of an action look like.
* `Errand.Suits`: what the errands of an action look like.

## Main results

* `Gateway.plan_scoped`, `Gateway.plan_unscoped`: the plans of all actions.
-/

namespace StorageGateway

/-! ### Scopes -/

/-- The storage that a request is scoped to: the one that its path names, or the one that the
registration form names. -/
def Action.storage? (flags : Scope.Flags) (captures : Route.Captures) (req : Inbound) :
    Action → Option String
  | .register =>
    (Form.read req.headers req.body.chunks ["name", "password"]).toOption.map (·.headD "")
  | .within _ => (Scope.ofCaptures flags captures).toOption.map (·.storage)
  | _ => none

/-! ### Answers without cookies -/

theorem Headers.all_append (hs others : Headers) (name : String) :
    Headers.all (hs ++ others) name = hs.all name ++ others.all name := by
  simp [all]

/-- A response that leaves the cookies of the browser alone. -/
def Response.IsPlain (r : Response) : Prop := r.headers.all "set-cookie" = []

/-- An outcome that leaves the cookies of the browser alone; the report of a fault does so. -/
def Response.IsPlainOutcome (outcome : Except Fault Response) : Prop :=
  ∀ r, outcome = .ok r → r.IsPlain

namespace Response

theorem isPlainOutcome_ok {r : Response} (h : r.IsPlain) : IsPlainOutcome (.ok r) := by
  intro s hs
  exact Except.ok.inj hs ▸ h

theorem isPlainOutcome_error (f : Fault) : IsPlainOutcome (.error f) := by
  intro r h
  cases h

theorem isPlain_empty (status : Nat) : (empty status).IsPlain := rfl

theorem isPlain_ofText (status : Nat) (mediaType text : String) :
    (ofText status mediaType text).IsPlain := rfl

theorem isPlain_page (p : Html.Page) : (page p).IsPlain := isPlain_ofText _ _ _

theorem isPlain_ofOutcome {outcome : Except Fault Response} (h : IsPlainOutcome outcome) :
    (ofOutcome outcome).IsPlain := by
  cases outcome with
  | ok r => exact h r rfl
  | error f => exact isPlain_ofText _ _ _

theorem isPlainOutcome_found? (location : String) : IsPlainOutcome (found? location) := by
  unfold found?
  dsimp only
  split
  · exact isPlainOutcome_ok rfl
  · exact isPlainOutcome_error _

end Response

open Response

/-! ### Calls and errands of an action -/

/-- Whether a list of parameters names a storage, exactly once. -/
def Call.Names (storage : String) (values : List (String × String)) : Prop :=
  values.filter (·.1 == "storage") = [("storage", storage)]

/-- The endpoint that an action asks, unless it makes no call. -/
def Action.endpoint? : Action → Option String
  | .register => some "register"
  | .within .login => some "login"
  | .within .index => some "index.html"
  | .within .view => some "list"
  | .within .download => some "file"
  | .within (.downloadNamed _) => some "file"
  | .within .upload => some "upload"
  | .within .remove => some "remove"
  | .within .shareText => some "shareText"
  | _ => none

theorem Action.mem_of_endpoint? {action : Action} {endpoint : String}
    (h : action.endpoint? = some endpoint) : endpoint ∈ ["register", "login", "index.html", "list",
      "file", "upload", "remove", "shareText"] := by
  rw [endpoint?.eq_def] at h
  split at h <;> cases h <;> decide

/-- The calls that an action makes about a storage. -/
inductive Call.IsAbout (storage : String) (action : Action) : Call → Prop
  | get {endpoint values} (asked : action.endpoint? = some endpoint)
      (notUpload : action ≠ .within .upload) (names : Names storage values) :
      IsAbout storage action (.get endpoint values)
  | postForm {endpoint values} (asked : action.endpoint? = some endpoint)
      (notUpload : action ≠ .within .upload) (names : Names storage values) :
      IsAbout storage action (.postForm endpoint values)
  | postFiles {endpoint parts} (asked : action.endpoint? = some endpoint)
      (upload : action = .within .upload) : IsAbout storage action (.postFiles endpoint parts)

theorem Call.IsAbout.endpoint_eq {storage : String} {action : Action} {call : Call}
    (h : call.IsAbout storage action) : action.endpoint? = some call.endpoint := by
  cases h with
  | get hasked => exact hasked
  | postForm hasked => exact hasked
  | postFiles hasked => exact hasked

/-- The form that is shown again when a login or a registration failed. -/
def Account.retryForm (action : Action) (storage : String) (f : Fault) : Html.Page :=
  if action = .register then Page.register { storage, common := registerMessage f }
  else Page.login { storage, common := loginMessage f }

/-- Whether an action asks for a token. -/
def Action.asksToken (action : Action) : Bool :=
  action = .register || action = .within .login

/-- The ways in which an action goes on after its call. -/
inductive Sequel.Suits (storage : String) (action : Action) : Sequel → Prop
  | present {onReply} (notToken : action.asksToken = false)
      (plain : ∀ r, IsPlainOutcome (onReply r)) : Suits storage action (.present onReply)
  | enter (token : action.asksToken = true) :
      Suits storage action (.enter (Account.retryForm action storage))

/-- The errands of an action. -/
inductive Errand.Suits (storage : String) (action : Action) : Errand → Prop
  | answer {outcome} (notLogout : action ≠ .within .logout) (plain : IsPlainOutcome outcome) :
      Suits storage action (.answer outcome)
  | forget {outcome} (logout : action = .within .logout) (plain : IsPlainOutcome outcome) :
      Suits storage action (.forget outcome)
  | ask {call sequel} (notLogout : action ≠ .within .logout) (about : call.IsAbout storage action)
      (suits : sequel.Suits storage action) : Suits storage action (.ask call sequel)

theorem Sequel.Suits.isPlain_outcome {storage : String} {action : Action} {sequel : Sequel}
    (h : sequel.Suits storage action) (result : Except Fault Reply) :
    IsPlainOutcome (sequel.outcome storage result) := by
  cases h with
  | present _ hplain =>
    cases result with
    | ok r => exact hplain r
    | error f => exact isPlainOutcome_error f
  | enter =>
    cases result with
    | ok r =>
      rw [Sequel.outcome]
      split
      · exact isPlainOutcome_found? _
      · exact isPlainOutcome_error _
    | error f => exact isPlainOutcome_ok (isPlain_page _)

/-- An errand leaves the cookies of the browser to its mark. -/
theorem Errand.Suits.isPlain_settle {storage : String} {action : Action} {e : Errand}
    (h : e.Suits storage action) (b : Backend) (service : Service) (token : Option String)
    (held : Bool) : IsPlainOutcome (e.settle b service storage token held).outcome := by
  cases h with
  | answer _ hplain => exact hplain
  | forget _ hplain => exact hplain
  | @ask call _ _ _ hsuits =>
    rw [Errand.settle]
    cases b.exchange? service token call <;> exact hsuits.isPlain_outcome _

/-- A plan that is an errand of an action. -/
def Plan.IsErrand (storage : String) (action : Action) (p : Plan) : Prop :=
  ∃ e : Errand, e.Suits storage action ∧ p = e.plan storage

/-! ### The handlers -/

namespace Plan

variable {storage : String} {action : Action}

theorem isErrand_reply {outcome : Except Fault Response} (hlogout : action ≠ .within .logout)
    (hplain : IsPlainOutcome outcome) : (reply outcome).IsErrand storage action :=
  ⟨.answer outcome, .answer hlogout hplain, rfl⟩

theorem isErrand_page {p : Html.Page} (hlogout : action ≠ .within .logout) :
    (page p).IsErrand storage action :=
  isErrand_reply hlogout (isPlainOutcome_ok (isPlain_page p))

theorem isErrand_refuse {f : Fault} (hlogout : action ≠ .within .logout) :
    (refuse f).IsErrand storage action :=
  isErrand_reply hlogout (isPlainOutcome_error f)

theorem isErrand_forward {call : Call} {onReply : Reply → Except Fault Response}
    (hlogout : action ≠ .within .logout) (htoken : action.asksToken = false)
    (habout : call.IsAbout storage action) (hplain : ∀ r, IsPlainOutcome (onReply r)) :
    (forward storage call onReply).IsErrand storage action :=
  ⟨.ask call (.present onReply), .ask hlogout habout (.present htoken hplain), rfl⟩

theorem isErrand_enter {call : Call} (hlogout : action ≠ .within .logout)
    (htoken : action.asksToken = true) (habout : call.IsAbout storage action) :
    (ask storage call (Account.acceptOrShow storage (Account.retryForm action storage))).IsErrand
      storage action :=
  ⟨.ask call (.enter _), .ask hlogout habout (.enter htoken), rfl⟩

end Plan

/-- The parameters of a scope name its storage. -/
theorem Scope.names_values (s : Scope) : Call.Names s.storage s.values := by
  rw [Call.Names, values]
  cases s.isPublic <;> cases s.isPermanent <;> rfl

/-- Further parameters of other names do not count. -/
theorem Call.Names.append {storage : String} {values others : List (String × String)}
    (h : Call.Names storage values) (hothers : ∀ p ∈ others, p.1 ≠ "storage") :
    Call.Names storage (values ++ others) := by
  have hnone : others.filter (·.1 == "storage") = [] := by
    simpa [List.filter_eq_nil_iff] using hothers
  rw [Call.Names, List.filter_append, h, hnone, List.append_nil]

namespace Account

theorem isErrand_login (s : Scope) (req : Inbound) :
    (login s req).IsErrand s.storage (.within .login) := by
  have hlogout : Action.within .login ≠ .within .logout := by decide
  rw [login]
  split
  · exact Plan.isErrand_refuse hlogout
  · rename_i fields _
    dsimp only
    split
    · exact Plan.isErrand_page hlogout
    · rename_i hmessage
      have hentry (f : Fault) :
          Page.login { loginEntry s.storage (fields.headD "") with common := loginMessage f } =
            retryForm (.within .login) s.storage f := by
        have hempty : (loginEntry s.storage (fields.headD "")).name = "" ∧
            (loginEntry s.storage (fields.headD "")).password = "" := by
          simpa [Page.Entry.hasMessage, loginEntry] using hmessage
        rw [retryForm, if_neg (by decide)]
        simp only [hempty.1, hempty.2]
        rfl
      simp only [hentry]
      exact Plan.isErrand_enter hlogout (by decide)
        (.postForm rfl (by decide) (s.names_values.append (by simp)))

theorem isErrand_register {flags : Scope.Flags} {captures : Route.Captures} (req : Inbound)
    {storage : String}
    (h : Action.storage? flags captures req .register = some storage) :
    (register req).IsErrand storage .register := by
  have hlogout : Action.register ≠ .within .logout := by decide
  rw [Action.storage?] at h
  rw [register]
  cases hread : Form.read req.headers req.body.chunks ["name", "password"] with
  | error r => simp [hread, Except.toOption] at h
  | ok fields =>
    have hname : fields.headD "" = storage := by simpa [hread, Except.toOption] using h
    simp only [hname]
    split
    · exact Plan.isErrand_page hlogout
    · exact Plan.isErrand_enter hlogout (by decide) (.postForm rfl (by decide) rfl)

theorem isErrand_logout (s : Scope) : (logout s).IsErrand s.storage (.within .logout) :=
  ⟨.forget _, .forget rfl (isPlainOutcome_found? _), rfl⟩

end Account

namespace Files

variable {storage : String} {action : Action} {s : Scope}

/-- A file is passed on with its media type and its length. -/
theorem isPlain_passOn {headers : Headers} (h : headers.all "set-cookie" = []) (r : Reply) :
    (passOn headers r).IsPlain := by
  have hnone {p : Headers} (hp : ∀ x ∈ p, x.name ≠ "set-cookie") : p.all "set-cookie" = [] := by
    simpa [Headers.all, List.filter_eq_nil_iff] using hp
  have hmediaType : Headers.all (if (headers.first? "content-type").isSome then []
      else ((r.headers.first? "content-type").map (Header.mk "content-type")).toList)
      "set-cookie" = [] := by
    refine hnone fun x hx => ?_
    split at hx
    · simp at hx
    · obtain ⟨value, -, rfl⟩ := Option.map_eq_some_iff.mp (Option.mem_toList.mp hx)
      simp
  have hlength : Headers.all
      (r.length.map fun n => Header.ofText "content-length" (toString n)).toList
      "set-cookie" = [] := by
    refine hnone fun x hx => ?_
    obtain ⟨n, -, rfl⟩ := Option.map_eq_some_iff.mp (Option.mem_toList.mp hx)
    simp [Header.ofText]
  rw [Response.IsPlain, passOn, Headers.all_append, Headers.all_append, h, hmediaType, hlength]
  rfl

theorem isErrand_download (hlogout : action ≠ .within .logout) (htoken : action.asksToken = false)
    (hasked : action.endpoint? = some "file") (hupload : action ≠ .within .upload) :
    (download s).IsErrand s.storage action := by
  refine Plan.isErrand_forward hlogout htoken (.get hasked hupload s.names_values) fun r => ?_
  cases Disposition.header? s.fileName with
  | error f => exact isPlainOutcome_error f
  | ok value => exact isPlainOutcome_ok (isPlain_passOn rfl r)

theorem isErrand_index : (index s).IsErrand s.storage (.within .index) :=
  Plan.isErrand_forward (by decide) (by decide) (.get rfl (by decide) s.names_values) fun r =>
    isPlainOutcome_ok (isPlain_passOn rfl r)

theorem isErrand_view : (view s).IsErrand s.storage (.within .view) := by
  refine Plan.isErrand_forward (by decide) (by decide) (.get rfl (by decide) s.names_values)
    fun r => ?_
  rw [showListing]
  split
  · exact isPlainOutcome_ok (isPlain_page _)
  · exact isPlainOutcome_error _

theorem isPlainOutcome_done (r : Reply) : IsPlainOutcome (done r) :=
  isPlainOutcome_ok (isPlain_empty 200)

theorem isErrand_upload (limit : Nat) (req : Inbound) :
    (upload limit s req).IsErrand s.storage (.within .upload) := by
  rw [upload]
  split
  · exact Plan.isErrand_refuse (by decide)
  · exact Plan.isErrand_forward (by decide) (by decide) (.postFiles rfl rfl) isPlainOutcome_done

theorem isErrand_remove (req : Inbound) :
    (remove s req).IsErrand s.storage (.within .remove) := by
  rw [remove]
  split
  · exact Plan.isErrand_refuse (by decide)
  · dsimp only
    split
    · exact Plan.isErrand_refuse (by decide)
    · exact Plan.isErrand_forward (by decide) (by decide)
        (.postForm rfl (by decide) (s.withFile _).names_values) isPlainOutcome_done

theorem isErrand_shareText (req : Inbound) :
    (shareText s req).IsErrand s.storage (.within .shareText) := by
  rw [shareText]
  split
  · exact Plan.isErrand_refuse (by decide)
  · dsimp only
    split
    · exact Plan.isErrand_refuse (by decide)
    · exact Plan.isErrand_forward (by decide) (by decide)
        (.postForm rfl (by decide) (s.names_values.append (by simp))) isPlainOutcome_done

end Files

/-! ### All actions -/

namespace Gateway

variable {g : Gateway} {flags : Scope.Flags} {captures : Route.Captures} {req : Inbound}
  {action : Action}

theorem isErrand_storagePlan (g : Gateway) (s : Scope) (req : Inbound) (action : StorageAction) :
    (g.storagePlan s req action).IsErrand s.storage (.within action) := by
  cases action with
  | loginPage => exact Plan.isErrand_page (by decide)
  | login => exact Account.isErrand_login s req
  | logout => exact Account.isErrand_logout s
  | index => exact Files.isErrand_index
  | view => exact Files.isErrand_view
  | download => exact Files.isErrand_download (by decide) (by decide) rfl (by decide)
  | downloadNamed name =>
    exact Files.isErrand_download (s := s.withFile name) (by simp) (by simp [Action.asksToken])
      rfl (by simp)
  | upload => exact Files.isErrand_upload g.uploadLimit req
  | remove => exact Files.isErrand_remove req
  | shareText => exact Files.isErrand_shareText req

/-- The plan of a request that is scoped to a storage is an errand of this storage. -/
theorem plan_scoped {storage : String} (h : action.storage? flags captures req = some storage) :
    (g.plan flags captures req action).IsErrand storage action := by
  cases action with
  | home => cases h
  | resource => cases h
  | icon => cases h
  | registerPage => cases h
  | register => exact Account.isErrand_register req h
  | within action =>
    rw [Action.storage?] at h
    cases hscope : Scope.ofCaptures flags captures with
    | error f => simp [hscope, Except.toOption] at h
    | ok s =>
      have hstorage : s.storage = storage := by simpa [hscope, Except.toOption] using h
      simp only [plan, hscope]
      exact hstorage ▸ isErrand_storagePlan g s req action

/-- A request that is scoped to no storage is answered at once. -/
theorem plan_unscoped (h : action.storage? flags captures req = none) :
    ∃ outcome, IsPlainOutcome outcome ∧
      g.plan flags captures req action = .reply outcome := by
  cases action with
  | home => exact ⟨.ok home, isPlainOutcome_ok (by rw [Response.IsPlain]; rfl), rfl⟩
  | resource =>
    refine ⟨resource captures, ?_, rfl⟩
    rw [resource]
    split
    · exact isPlainOutcome_ok (isPlain_ofText _ _ _)
    · rw [Resource.find?]
      split
      · exact isPlainOutcome_ok (isPlain_ofText _ _ _)
      · exact isPlainOutcome_error _
  | icon => exact ⟨_, isPlainOutcome_ok (isPlain_empty 404), rfl⟩
  | registerPage => exact ⟨_, isPlainOutcome_ok (isPlain_page _), rfl⟩
  | register =>
    rw [Action.storage?] at h
    cases hread : Form.read req.headers req.body.chunks ["name", "password"] with
    | error r =>
      exact ⟨_, isPlainOutcome_error r.fault, by simp [plan, Account.register, hread, Plan.refuse]⟩
    | ok fields => simp [hread, Except.toOption] at h
  | within action =>
    rw [Action.storage?] at h
    cases hscope : Scope.ofCaptures flags captures with
    | error f => exact ⟨_, isPlainOutcome_error f, by simp [plan, hscope, Plan.refuse]⟩
    | ok s => simp [hscope, Except.toOption] at h

end Gateway

end StorageGateway
