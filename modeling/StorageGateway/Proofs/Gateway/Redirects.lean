import StorageGateway.Proofs.Gateway.Addresses
import StorageGateway.Proofs.Route.Names
import StorageGateway.Proofs.Session.Issue

/-!
# Redirects

A login and a registration that succeed lead to the storage, and a logout leads to the page on which
one logs in again. The address of the redirect is put together from the name of the storage, and
the routes take it apart again: whatever the name is, it is an address of the same host, and asking
for it is asking about the storage of this name. One name is an exception, because the address of
its storage is that of the icon.

## Main definitions

* `Response.LeadsTo`: redirects to an address.
* `Account.IsLocal`: addresses that stay with the host and can be written into a header.

## Main results

* `Gateway.plan?_storageAddress_iff`, `Gateway.plan?_loginAddress`: what asking for the two
  addresses leads to.
* `Gateway.redirects_lead_to_own_storage`: where a login, a registration and a logout lead.
-/

namespace StorageGateway

open Route

/-- A response that sends the browser to an address. -/
structure Response.LeadsTo (response : Response) (address : String) : Prop where
  status : response.status = 302
  location : response.headers.all "location" = [Utf8.ofString address]

/-! ### Addresses -/

namespace Account

/-- Addresses below the root of the same host: one slash stands at the start, and all characters
are printing ones. -/
structure IsLocal (address : String) : Prop where
  start : ∃ c rest, address.toList = '/' :: c :: rest ∧ c ≠ '/' ∧ c ≠ '\\'
  printed : ∀ c ∈ address.toList, 0x20 < c.toNat ∧ c.toNat < 0x7F

theorem storageAddress_eq (storage : String) :
    storageAddress storage = addressOf Percent.encodeComponent [storage] := by
  rw [addressOf_cons, addressOf_nil, String.append_empty, storageAddress]

theorem loginAddress_eq (storage : String) :
    loginAddress storage = addressOf Percent.encodeComponent ["login", storage, ""] := by
  have hwords : Percent.encodeComponent "login" = "login" ∧ Percent.encodeComponent "" = "" :=
    ⟨rfl, rfl⟩
  have hstart : "/login/" = "/" ++ "login" ++ "/" := rfl
  simp only [addressOf_cons, addressOf_nil, hwords, loginAddress, hstart, String.append_assoc,
    String.append_empty]

/-- The characters of an encoded name. -/
theorem mem_encodeComponent {name : String} {c : Char}
    (h : c ∈ (Percent.encodeComponent name).toList) :
    0x20 < c.toNat ∧ c.toNat < 0x7F ∧ c ≠ '/' ∧ c ≠ '\\' := by
  refine Percent.forall_mem_encodeString
    (p := fun c => 0x20 < c.toNat ∧ c.toNat < 0x7F ∧ c ≠ '/' ∧ c ≠ '\\') (fun b hb => ?_)
    (forall_mem_of_all (by decide)) name c h
  obtain ⟨hlow, hhigh⟩ := Percent.toNat_of_keptInComponent hb
  have hne (mark : UInt8) (hmark : Percent.keptInComponent mark = false) :
      Char.ofNat b.toNat ≠ Char.ofNat mark.toNat := by
    intro heq
    have hbyte := congrArg (fun c => UInt8.ofNat c.toNat) heq
    rw [Bytes.ofNat_toNat_ofNat, Bytes.ofNat_toNat_ofNat] at hbyte
    rw [hbyte, hmark] at hb
    cases hb
  rw [Bytes.toNat_ofNat_toNat]
  exact ⟨by omega, by omega, hne 0x2F rfl, hne 0x5C rfl⟩

theorem isLocal_storageAddress {storage : String} (hnamed : storage ≠ "") :
    IsLocal (storageAddress storage) := by
  have hslash : ("/" : String).toList = ['/'] := rfl
  have hlist : (storageAddress storage).toList =
      '/' :: (Percent.encodeComponent storage).toList := by
    rw [storageAddress, String.toList_append, hslash, List.singleton_append]
  have hname : (Percent.encodeComponent storage).toList ≠ [] := by
    rw [ne_eq, String.toList_eq_nil_iff]
    exact Percent.encodeString_eq_empty.not.mpr hnamed
  constructor
  · obtain ⟨c, rest, hcons⟩ := List.exists_cons_of_ne_nil hname
    obtain ⟨-, -, hc⟩ := mem_encodeComponent (hcons ▸ List.mem_cons_self)
    exact ⟨c, rest, hlist.trans (congrArg _ hcons), hc⟩
  · rw [hlist]
    refine List.forall_mem_cons.mpr ⟨by decide, fun c hc => ?_⟩
    obtain ⟨hlow, hhigh, -⟩ := mem_encodeComponent hc
    exact ⟨hlow, hhigh⟩

theorem isLocal_loginAddress (storage : String) : IsLocal (loginAddress storage) := by
  have hstart : ("/login/" : String).toList = ['/', 'l', 'o', 'g', 'i', 'n', '/'] := rfl
  have hslash : ("/" : String).toList = ['/'] := rfl
  have hlist : (loginAddress storage).toList = ['/', 'l', 'o', 'g', 'i', 'n', '/'] ++
      (Percent.encodeComponent storage).toList ++ ['/'] := by
    rw [loginAddress, String.toList_append, String.toList_append, hstart, hslash]
  constructor
  · exact ⟨'l', _, hlist, by decide, by decide⟩
  · rw [hlist]
    refine List.forall_mem_append.mpr ⟨List.forall_mem_append.mpr
      ⟨forall_mem_of_all (by decide), fun c hc => ?_⟩, forall_mem_of_all (by decide)⟩
    obtain ⟨hlow, hhigh, -⟩ := mem_encodeComponent hc
    exact ⟨hlow, hhigh⟩

end Account

/-- A redirect to a local address never fails to be written. -/
theorem Account.IsLocal.found?_eq {address : String} (h : Account.IsLocal address) :
    Response.found? address = .ok ⟨302, [⟨"location", Utf8.ofString address⟩], .sized []⟩ := by
  have hascii : Utf8.IsAscii address.toList := fun c hc => by
    have hc' := h.printed c hc
    omega
  have hwritable : Header.isWritable (Utf8.ofString address) = true := by
    rw [Header.isWritable, List.all_eq_true, hascii.ofString_eq]
    intro b hb
    obtain ⟨c, hc, rfl⟩ := List.mem_map.mp hb
    obtain ⟨hlow, hhigh⟩ := h.printed c hc
    have hbyte : (UInt8.ofNat c.toNat).toNat = c.toNat := Utf8.toNat_ofNat_of_lt (by omega)
    have hdelete : UInt8.ofNat c.toNat ≠ 0x7F := by
      intro heq
      rw [heq] at hbyte
      change 0x7F = c.toNat at hbyte
      omega
    have hspace : (0x20 : UInt8) ≤ UInt8.ofNat c.toNat := by
      rw [UInt8.le_iff_toNat_le, hbyte]
      exact Nat.le_of_lt hlow
    simp [hspace, hdelete]
  simp only [Response.found?, hwritable, if_true]

/-! ### What the addresses lead to -/

namespace Gateway

variable {g : Gateway} {req : Inbound} {first : Request} {action : Action} {storage : String}

/-- The best route for an address of names gives the action. -/
theorem action?_addressOf (req : Inbound) {names : List String} (hne : names ≠ []) {r : Route}
    {captures : Captures} (hr : r ∈ table) (haction : r.get = some action)
    (hmatch : matchSegments? r.pattern (names.map segmentOf) = some captures)
    (hbest : ∀ other ∈ table, (matchSegments? other.pattern (names.map segmentOf)).isSome →
      other = r ∨ beats r.pattern other.pattern = true) :
    action? (req.asking (addressOf Percent.encodeComponent names)) =
      some (action, r.flags, captures) := by
  have hpath (pattern : Pattern) :
      matchPath? pattern (pathOf (req.asking (addressOf Percent.encodeComponent names)).target) =
        matchSegments? pattern (names.map segmentOf) := by
    rw [matchPath?, Inbound.target_asking]
    exact congrArg _ (segments_addressOf isForNames_keptInComponent hne)
  have hroute : route? table (req.asking (addressOf Percent.encodeComponent names)) =
      some (r, captures) := by
    refine select?_eq_of_forall_beats hr ?_ fun other hother hmatches => ?_
    · rw [hpath, hmatch]
    · rw [hpath] at hmatches
      exact hbest other hother hmatches
  have haction' : r.action? (req.asking (addressOf Percent.encodeComponent names)).method =
      some action := by
    rw [Route.action?, if_pos (.inl rfl), haction]
  simp only [action?, hroute, Option.bind_some, haction', Option.map_some]

/-- The route to the directory page of a storage. -/
def viewRoute : Route := about [Route.storage] .ofPrivate (some .view)

/-- The route to the icon. -/
def iconRoute : Route := { pattern := [.literal "favicon.ico"], get := some .icon }

/-- The route to the login page of a storage. -/
def loginRoute : Route :=
  about [.literal "login", Route.storage, slash] .ofPublic (some .loginPage) (some .login)

/-- The routes that match the name of a storage alone. -/
theorem eq_of_matches_name (hnamed : storage ≠ "") : ∀ r ∈ table,
    (matchSegments? r.pattern [segmentOf storage]).isSome →
      r = viewRoute ∨ r = iconRoute ∧ storage = "favicon.ico" := by
  simp (disch := decide) [table, areaRoutes, about, order, Route.storage, Route.file, slash,
    permanent, matchSegments?, segmentOf_eq_iff, hnamed, viewRoute, iconRoute,
    Scope.Flags.ofPrivate]

/-- The routes that match the address of a login page. -/
theorem beats_of_matches_login : ∀ r ∈ table,
    (matchSegments? r.pattern (["login", storage, ""].map segmentOf)).isSome →
      r = loginRoute ∨ beats loginRoute.pattern r.pattern = true := by
  -- A literal at the start of a pattern other than `login` does not match, and a capture is beaten.
  have hlogin : segmentOf "login" = Bytes.ofAscii "login" := rfl
  have hend : segmentOf "" = Bytes.ofAscii "" := rfl
  simp [table, areaRoutes, about, order, Route.storage, Route.file, slash, permanent,
    matchSegments?, hlogin, hend, loginRoute, beats, Segment.rank]
  decide

theorem matches_view (hnamed : storage ≠ "") :
    matchSegments? viewRoute.pattern [segmentOf storage] =
      some [("storage", segmentOf storage)] := by
  simp [viewRoute, about, Route.storage, matchSegments?, hnamed]

theorem matches_login (storage : String) :
    matchSegments? loginRoute.pattern (["login", storage, ""].map segmentOf) =
      some [("storage", segmentOf storage)] := by
  have hlogin : segmentOf "login" = Bytes.ofAscii "login" := rfl
  have hend : segmentOf "" = Bytes.ofAscii "" := rfl
  simp [loginRoute, about, Route.storage, slash, matchSegments?, hlogin, hend]

/-- The scope of a path that names nothing but a storage. -/
theorem ofCaptures_storage (flags : Scope.Flags) (storage : String) :
    Scope.ofCaptures flags [("storage", segmentOf storage)] =
      .ok { storage, isPublic := flags.isPublic
            isPermanent := !storage.isEmpty && flags.isPermanent } := by
  by_cases hnamed : storage = "" <;>
    simp [Scope.ofCaptures, Captures.texts?, Except.map, Scope.ofTexts, Scope.captured?, hnamed]

/-- Asking for the address of a storage is asking for its directory page in the private area,
unless the storage bears the name of the icon. -/
theorem plan?_storageAddress_iff (g : Gateway) (req : Inbound) (hnamed : storage ≠ "") :
    g.plan? (req.asking (Account.storageAddress storage)) = some (Files.view { storage }) ↔
      storage ≠ "favicon.ico" := by
  rw [Account.storageAddress_eq]
  constructor
  · rintro hplan rfl
    have haction : action? (req.asking (addressOf Percent.encodeComponent ["favicon.ico"])) =
        some (.icon, .ofPrivate, []) := by
      refine action?_addressOf req (List.cons_ne_nil _ _) (r := iconRoute) (by decide) rfl
        (by decide) fun other hother hmatches => ?_
      rcases eq_of_matches_name hnamed other hother hmatches with rfl | ⟨rfl, -⟩
      · exact .inr rfl
      · exact .inl rfl
    rw [plan?, haction] at hplan
    cases hplan
  · intro hicon
    have haction := action?_addressOf req (List.cons_ne_nil storage []) (r := viewRoute)
      (by decide) rfl (matches_view hnamed) fun other hother hmatches => by
        rcases eq_of_matches_name hnamed other hother hmatches with rfl | ⟨-, hname⟩
        · exact .inl rfl
        · exact absurd hname hicon
    simp only [plan?, haction, Option.map_some, plan, ofCaptures_storage]
    simp [viewRoute, about, storagePlan, Scope.Flags.ofPrivate]

/-- Asking for the address of the login page of a storage is asking for this page. -/
theorem plan?_loginAddress (g : Gateway) (req : Inbound) (storage : String) :
    g.plan? (req.asking (Account.loginAddress storage)) =
      some (Account.loginPage { storage, isPublic := true }) := by
  have haction := action?_addressOf req (List.cons_ne_nil "login" [storage, ""]) (r := loginRoute)
    (by decide) rfl (matches_login storage) beats_of_matches_login
  rw [Account.loginAddress_eq]
  simp only [plan?, haction, Option.map_some, plan, ofCaptures_storage]
  simp [loginRoute, about, storagePlan, Scope.Flags.ofPublic]

/-! ### Where the redirects lead -/

theorem leadsTo_respond (g : Gateway) (method : String) (changes : Cookie.Table Cookie.Change)
    {address : String} (h : Account.IsLocal address) :
    (g.respond method changes (Response.found? address)).LeadsTo address where
  status := by rw [status_respond, h.found?_eq]; rfl
  location := by rw [all_respond _ _ _ _ (by decide), h.found?_eq]; rfl

/-- A login or a registration that succeeds leads to the address of its storage. -/
theorem leadsTo_of_entry (hsubject : subject? req = some (action, storage))
    (htoken : action.asksToken = true) (hreaches : g.Reaches req first) {service : Service}
    {r : Reply} (hreply : (Exchange.send service first).reply = some r) (hok : r.status = 200)
    (hwhole : r.isWhole = true) :
    storage ≠ "" ∧ (g.serve service req).1.LeadsTo (Account.storageAddress storage) := by
  obtain ⟨p, hplan, hentry⟩ := g.isEntry_of_subject? hsubject htoken
  obtain ⟨storage', call, next, hask, hfirst⟩ := hreaches
  obtain rfl := Option.some.inj (hplan.symm.trans hask)
  cases hentry with
  | ask hnamed =>
    have hsettle : Exchange.settle (Exchange.send service first).reply = .ok r :=
      Exchange.settle_eq_ok_iff.mpr ⟨hreply, hok⟩
    refine ⟨hnamed, ?_⟩
    rw [serve_of_plan? hplan, Plan.run]
    simp only [hfirst, hsettle, Account.acceptOrShow, Account.acceptToken, hwhole, if_true]
    exact g.leadsTo_respond _ _ (Account.isLocal_storageAddress hnamed)

/-- A logout leads to the address of the login page of its storage. -/
theorem leadsTo_of_logout (hsubject : subject? req = some (.within .logout, storage))
    (service : Service) :
    (g.serve service req).1.LeadsTo (Account.loginAddress storage) := by
  obtain ⟨-, -, s, -, -, rfl, hplan⟩ := exists_scope_of_subject? hsubject
  have hlogout : g.plan? req = some (Account.logout s) := hplan g
  rw [serve_of_plan? hlogout]
  simp only [Account.logout, Plan.run]
  exact g.leadsTo_respond _ _ (Account.isLocal_loginAddress s.storage)

/-- A login or a registration whose call succeeds sends the browser to an address of the same host,
and a request for this address asks for the directory page of the private area of the very storage,
unless the storage is called `favicon.ico`. A logout sends it to an address, a request for which
asks for the page to log in to the very storage, whatever its name is. -/
theorem redirects_lead_to_own_storage (hsubject : subject? req = some (action, storage)) :
    (action.asksToken = true → ∀ first (service : Service) (r : Reply), g.Reaches req first →
      (Exchange.send service first).reply = some r → r.status = 200 → r.isWhole = true →
      ∃ address, (g.serve service req).1.LeadsTo address ∧ Account.IsLocal address ∧
        ∀ later : Inbound, g.plan? (later.asking address) = some (Files.view { storage }) ↔
          storage ≠ "favicon.ico") ∧
    (action = .within .logout → ∀ service : Service,
      ∃ address, (g.serve service req).1.LeadsTo address ∧ Account.IsLocal address ∧
        ∀ later : Inbound, g.plan? (later.asking address) =
          some (Account.loginPage { storage, isPublic := true })) := by
  constructor
  · intro htoken first service r hreaches hreply hok hwhole
    obtain ⟨hnamed, hleads⟩ := leadsTo_of_entry hsubject htoken hreaches hreply hok hwhole
    exact ⟨_, hleads, Account.isLocal_storageAddress hnamed,
      fun later => g.plan?_storageAddress_iff later hnamed⟩
  · rintro rfl service
    exact ⟨_, leadsTo_of_logout hsubject service, Account.isLocal_loginAddress storage,
      fun later => g.plan?_loginAddress later storage⟩

/-- A login to a storage whose name holds a slash leads to this storage, and a logout from the
storage with the name of the icon leads to its login page. -/
theorem redirects_lead_to_own_storage_icon :
    let g : Gateway :=
      ⟨⟨⟨"http", some { host := .domain "s" }, .segments [""], none, none⟩, []⟩, ⟨60, false⟩, 0⟩
    let login : Inbound :=
      { method := "POST"
        target := Bytes.ofAscii "/login/res%2Fa%25/"
        headers := [.ofText "content-type" "application/x-www-form-urlencoded"]
        body := ⟨[.data (Bytes.ofAscii "password=p")], []⟩ }
    let logout : Inbound := { target := Bytes.ofAscii "/logout/favicon.ico/" }
    let service : Service := .scripted [.reply { status := 200, body := Bytes.ofAscii "t" }]
    subject? login = some (.within .login, "res/a%") ∧
      subject? logout = some (.within .logout, "favicon.ico") ∧
      (∃ address, (g.serve service login).1.LeadsTo address ∧
        g.plan? (logout.asking address) = some (Files.view { storage := "res/a%" })) ∧
      ∃ address, (g.serve .unreachable logout).1.LeadsTo address ∧
        g.plan? (login.asking address) =
          some (Account.loginPage { storage := "favicon.ico", isPublic := true }) := by
  intro g login logout service
  have hlogin : subject? login = some (.within .login, "res/a%") := by decide +kernel
  have hlogout : subject? logout = some (.within .logout, "favicon.ico") := by decide +kernel
  have hsent : (g.serve (.scripted []) login).2 ≠ [] := by decide +kernel
  obtain ⟨first, rest, hcons⟩ := List.exists_cons_of_ne_nil hsent
  refine ⟨hlogin, hlogout, ?_, ?_⟩
  · obtain ⟨address, hleads, -, hback⟩ := (redirects_lead_to_own_storage hlogin).1 rfl first service
      _ (reaches_iff.mpr ⟨_, rest, hcons⟩) rfl rfl rfl
    exact ⟨address, hleads, (hback logout).mpr (by decide)⟩
  · obtain ⟨address, hleads, -, hback⟩ :=
      (redirects_lead_to_own_storage hlogout).2 rfl .unreachable
    exact ⟨address, hleads, hback login⟩

end Gateway

end StorageGateway
