import StorageGateway.Proofs.Browser.Visit

/-!
# Storages do not interfere

An answer depends on the cookies of a request through the one cookie of its storage, and changes no
other. Visits about different storages can therefore be made in either order: each gets the same
answer, and the browser ends with the same cookies.

The cookies of a browser go into one field, and this is where storages can meet: a text with a
semicolon under the name of a token's cookie would be read as further cookies, and a text with
bytes other than visible ASCII spoils the field as a whole, so that no cookie in it is read. No
answer of the gateway leaves such a text in a store, so stores that only hold what the gateway has
set are free of them, and every visit keeps a store so.

## Main definitions

* `Browser.Store.IsSound`: stores whose token cookies can be read one by one.

## Main results

* `Browser.Store.IsSound.run`: visits keep a store sound.
* `Browser.storages_isolated`: storages do not interfere.
* `Browser.unreadable_cookie_interferes`: with a spoilt store they do.
-/

namespace StorageGateway

open Cookie

/-! ### One request -/

namespace Session

/-- A jar without changes is asked about a storage by its cookie. -/
theorem token?_congr {jar other : Jar} {storage : String}
    (h : ∀ name, cookieName? storage = some name → other.value? name = jar.value? name) :
    token? other storage = token? jar storage := by
  rw [token?, token?]
  cases hname : cookieName? storage with
  | none => rfl
  | some name => rw [Option.bind_some, Option.bind_some, h name hname]

theorem isHeld_congr {jar other : Jar} {storage : String} (hjar : jar.changes = [])
    (hother : other.changes = [])
    (h : ∀ name, cookieName? storage = some name → other.value? name = jar.value? name) :
    isHeld other storage = isHeld jar storage := by
  rw [isHeld, isHeld]
  cases hname : cookieName? storage with
  | none => rfl
  | some name =>
    have hvalue := h name hname
    simp only [Jar.value?, hjar, hother, Table.get?_nil] at hvalue
    rw [Option.bind_some, Option.bind_some, hvalue]

end Session

namespace Gateway

variable {req : Inbound} {action : Action} {storage : String}

/-- Requests that differ in other cookies only are answered alike. -/
theorem serve_congr (g : Gateway) (h : subject? req = some (action, storage)) {other : Inbound}
    (halike : other.withoutCookies = req.withoutCookies)
    (hcookie : ∀ name, Session.cookieName? storage = some name →
      other.jar.value? name = req.jar.value? name) (service : Service) :
    g.serve service other = g.serve service req := by
  obtain ⟨e, -, -, hserve⟩ := g.serve_subject h
  rw [hserve service other halike, hserve service req rfl, Session.token?_congr hcookie,
    Session.isHeld_congr req.changes_jar other.changes_jar hcookie]

/-- The name of the cookie that a `set-cookie` field is about. -/
def lineName? (value : Bytes) : Option String := text? (value.takeWhile (· ≠ 0x3D))

theorem lineName?_line (p : Policy) (name : String) (c : Change) :
    lineName? (Bytes.ofAscii (line p name c)) = some name := by
  obtain ⟨rest, hline⟩ := Browser.Store.line_eq p name c
  have hmark : Bytes.ofAscii "=" = [0x3D] := by decide
  have hpair (value : String) : Bytes.ofAscii (pairText name value) =
      Bytes.ofAscii (encoded name) ++ 0x3D :: Bytes.ofAscii (encoded value) := by
    rw [pairText, Bytes.ofAscii_append, Bytes.ofAscii_append, hmark, List.append_assoc,
      List.singleton_append, encoded, encoded]
  have hequals : ∀ b ∈ Bytes.ofAscii (encoded name), decide (b ≠ 0x3D) = true := fun b hb =>
    decide_eq_true (mem_ofAscii_encoded hb).2.1
  rw [lineName?, hline, Bytes.ofAscii_append, Bytes.ofAscii_append, hpair, List.append_assoc,
    List.append_assoc, List.cons_append, List.takeWhile_append_of_pos hequals,
    List.takeWhile_cons_of_neg (by simp), List.append_nil, text?_encoded]

/-- An answer sets one cookie at most, that of its storage. -/
theorem setCookies_serve (g : Gateway) (h : subject? req = some (action, storage))
    (service : Service) :
    let lines := (g.serve service req).1.headers.all "set-cookie"
    lines.length ≤ 1 ∧ ∀ value ∈ lines, lineName? value = Session.cookieName? storage := by
  obtain ⟨e, hsuits, -, hserve⟩ := g.serve_subject h
  rw [hserve service req rfl, answer, setCookies_respond _ _ _ (hsuits.isPlain_settle _ _ _ _)]
  refine ⟨?_, fun value hvalue => ?_⟩
  · rw [List.length_map]
    exact Session.length_marks_le _ _
  · obtain ⟨c, hc, rfl⟩ := List.mem_map.mp hvalue
    rw [lineName?_line, (Session.mem_marks hc).1]

end Gateway

/-! ### Sound stores -/

namespace Browser

namespace Store

variable {store : Store}

/-- Stores whose token cookies can be read one by one: each holds visible characters other than
the semicolon. -/
structure IsSound (store : Store) : Prop where
  isMap : Table.IsMap store
  readable : ∀ storage value, (encoded (Session.cookieName storage), value) ∈ store →
    isVisible (Bytes.ofAscii value) = true ∧ 0x3B ∉ Bytes.ofAscii value

theorem isSound_nil : IsSound [] := ⟨Table.isMap_nil, by simp⟩

theorem IsSound.settle (h : store.IsSound) (storage : String) (mark : Option Change) :
    (store.settle storage mark).IsSound := by
  by_cases hname : storage = ""
  · rwa [hname, settle_empty]
  · cases mark with
    | none => rwa [settle_none]
    | some c =>
      rw [settle_some store hname]
      refine ⟨isMap_change h.isMap _ _, fun other value hmem => ?_⟩
      rcases mem_change hmem with ⟨hold, -⟩ | ⟨written, heq⟩
      · exact h.readable other value hold
      · rw [Prod.mk.injEq] at heq
        rw [heq.2]
        exact ⟨isVisible_encoded written, fun hmem => (mem_ofAscii_encoded hmem).1 rfl⟩

/-- Cookies of one name have no part in what is read under another name. -/
theorem filter_pairs_drop (hmap : Table.IsMap store) {raw name : String}
    (hvisible : ∀ value, (raw, value) ∈ store → isVisible (entryBytes (raw, value)) = true)
    (hother : ∀ value, (raw, value) ∈ store →
      (splitPairs (entryBytes (raw, value))).filter (·.1 == name) = []) :
    store.pairs.filter (·.1 == name) = (pairs (Table.drop store raw)).filter (·.1 == name) := by
  have hall : store.all (fun p => isVisible (entryBytes p)) =
      (Table.drop store raw).all fun p => isVisible (entryBytes p) := by
    rw [Bool.eq_iff_iff, List.all_eq_true, List.all_eq_true]
    refine ⟨fun h p hp => h p (Table.mem_drop.mp hp).1, ?_⟩
    rintro h ⟨n, value⟩ hp
    by_cases hraw : n = raw
    · subst hraw
      exact hvisible value hp
    · exact h _ (Table.mem_drop.mpr ⟨hp, hraw⟩)
  have hread (entries : List (String × String)) (hsub : ∀ p ∈ entries, p ∈ store) :
      (entries.flatMap fun p => splitPairs (entryBytes p)).filter (·.1 == name) =
        ((Table.drop entries raw).flatMap fun p => splitPairs (entryBytes p)).filter
          (·.1 == name) := by
    induction entries with
    | nil => rfl
    | cons p entries ih =>
      have hrest := ih fun q hq => hsub q (List.mem_cons_of_mem p hq)
      have hmem := hsub p List.mem_cons_self
      rw [List.flatMap_cons, List.filter_append, hrest]
      obtain ⟨n, value⟩ := p
      by_cases hraw : n = raw
      · subst hraw
        rw [hother value hmem, List.nil_append, Table.drop, Table.drop,
          List.filter_cons_of_neg (by simp)]
      · rw [Table.drop, Table.drop, List.filter_cons_of_pos (by simpa), List.flatMap_cons,
          List.filter_append]
  rw [pairs, pairs, hall]
  split
  · rw [hread store.sorted fun p hp => (perm_sorted store).subset hp, drop_sorted hmap]
  · rfl

/-- A mark on the cookie of a storage is not seen by requests about another one. -/
theorem IsSound.filter_pairs_settle (h : store.IsSound) {storage other : String}
    (hne : storage ≠ other) (mark : Option Change) :
    (store.settle storage mark).pairs.filter (·.1 == Session.cookieName other) =
      store.pairs.filter (·.1 == Session.cookieName other) := by
  by_cases hname : storage = ""
  · rw [hname, settle_empty]
  · cases mark with
    | none => rw [settle_none]
    | some c =>
      have hdrop {s : Store} (hs : s.IsSound) :
          s.pairs.filter (·.1 == Session.cookieName other) =
            (pairs (Table.drop s (encoded (Session.cookieName storage)))).filter
              (·.1 == Session.cookieName other) := by
        refine filter_pairs_drop hs.isMap (fun value hmem => ?_) fun value hmem => ?_
        · rw [isVisible_entryBytes_encoded]
          exact (hs.readable storage value hmem).1
        · rw [splitPairs_encoded_name (Session.cookieName_ne_empty storage)
            (hs.readable storage value hmem).2, List.filter_eq_nil_iff]
          intro p hp
          obtain ⟨v, -, rfl⟩ := Option.map_eq_some_iff.mp (Option.mem_toList.mp hp)
          simpa using Session.cookieName_injective.ne hne
      have hsettled := h.settle storage (some c)
      rw [settle_some store hname] at hsettled ⊢
      rw [hdrop hsettled, hdrop h, drop_change]

theorem IsSound.value?_settle (h : store.IsSound) {storage other : String} (hne : storage ≠ other)
    (mark : Option Change) {name : String} (hname : Session.cookieName? other = some name) :
    (store.settle storage mark).jar.value? name = store.jar.value? name := by
  obtain ⟨-, rfl⟩ := Session.cookieName?_eq_some hname
  exact Table.get?_ofPairs_congr (h.filter_pairs_settle hne mark)

/-! ### The order of changes -/

/-- Maps with the same values have the same entries. -/
theorem perm_of_get?_eq {t u : Store} (ht : Table.IsMap t) (hu : Table.IsMap u)
    (h : ∀ name, Table.get? t name = Table.get? u name) : t.Perm u := by
  rw [List.perm_ext_iff_of_nodup (List.Nodup.of_map _ ht) (List.Nodup.of_map _ hu)]
  rintro ⟨name, value⟩
  rw [Table.mem_iff_get? ht, Table.mem_iff_get? hu, h]

/-- Marks on the cookies of different storages commute. -/
theorem settle_comm (hmap : Table.IsMap store) {storage other : String} (hne : storage ≠ other)
    (mark otherMark : Option Change) :
    ((store.settle storage mark).settle other otherMark).sorted =
      ((store.settle other otherMark).settle storage mark).sorted := by
  by_cases hname : storage = ""
  · rw [hname, settle_empty, settle_empty]
  · by_cases hother : other = ""
    · rw [hother, settle_empty, settle_empty]
    · rcases mark with - | c
      · rw [settle_none, settle_none]
      · rcases otherMark with - | d
        · rw [settle_none, settle_none]
        · simp only [settle_some _ hname, settle_some _ hother]
          refine sorted_eq_of_perm (isMap_change (isMap_change hmap _ _) _ _)
            (perm_of_get?_eq (isMap_change (isMap_change hmap _ _) _ _)
              (isMap_change (isMap_change hmap _ _) _ _) fun raw => ?_)
          have hcookies : encoded (Session.cookieName storage) ≠
              encoded (Session.cookieName other) :=
            encoded_injective.ne (Session.cookieName_injective.ne hne)
          simp only [get?_change]
          by_cases hraw : raw = encoded (Session.cookieName storage)
          · simp only [hraw, hcookies, if_true, if_false]
          · simp only [hraw, if_false]

end Store

/-! ### Two visits -/

theorem Store.IsSound.visit {store : Store} (h : store.IsSound) (g : Gateway) (s : Step) :
    (Browser.visit g store s).IsSound := by
  cases hsubject : Gateway.subject? s.request with
  | none => rwa [visit_no_subject g store hsubject]
  | some subject =>
    obtain ⟨e, -, -, hvisit⟩ := exists_errand g hsubject
    rw [(hvisit s.service store).2]
    exact h.settle _ _

/-- Visits keep a store sound. -/
theorem Store.IsSound.run {store : Store} (h : store.IsSound) (g : Gateway) (steps : List Step) :
    (Browser.run g store steps).IsSound := by
  induction steps generalizing store with
  | nil => exact h
  | cons s steps ih => exact ih (h.visit g s)

/-- A visit is answered alike before and after a visit about another storage. -/
theorem serve_after_visit (g : Gateway) {store : Store} (h : store.IsSound) {s t : Step}
    {action other : Action} {storage otherStorage : String}
    (hs : Gateway.subject? s.request = some (action, storage))
    (ht : Gateway.subject? t.request = some (other, otherStorage))
    (hne : storage ≠ otherStorage) : serve g (visit g store s) t = serve g store t := by
  obtain ⟨e, -, -, hvisit⟩ := exists_errand g hs
  rw [(hvisit s.service store).2]
  refine g.serve_congr ((subject?_request store t.request).trans ht) ?_ (fun name hname => ?_) _
  · rw [Store.withoutCookies_request, Store.withoutCookies_request]
  · rw [Store.jar_request, Store.jar_request]
    exact h.value?_settle hne _ hname

/-- The cookies after two visits about different storages do not depend on their order. -/
theorem sorted_visit_visit (g : Gateway) {store : Store} (h : store.IsSound) {s t : Step}
    {action other : Action} {storage otherStorage : String}
    (hs : Gateway.subject? s.request = some (action, storage))
    (ht : Gateway.subject? t.request = some (other, otherStorage))
    (hne : storage ≠ otherStorage) :
    (visit g (visit g store s) t).sorted = (visit g (visit g store t) s).sorted := by
  obtain ⟨e, -, -, hvisit⟩ := exists_errand g hs
  obtain ⟨e', -, -, hvisit'⟩ := exists_errand g ht
  have hunseen (mark : Option Change) (name : String)
      (hname : Session.cookieName? otherStorage = some name) :
      (store.settle storage mark).jar.value? name = store.jar.value? name :=
    h.value?_settle hne mark hname
  have hunseen' (mark : Option Change) (name : String)
      (hname : Session.cookieName? storage = some name) :
      (store.settle otherStorage mark).jar.value? name = store.jar.value? name :=
    h.value?_settle hne.symm mark hname
  rw [(hvisit s.service store).2, (hvisit' t.service store).2, (hvisit' t.service _).2,
    (hvisit s.service _).2, Session.token?_congr (hunseen _),
    Session.isHeld_congr rfl rfl (hunseen _), Session.token?_congr (hunseen' _),
    Session.isHeld_congr rfl rfl (hunseen' _)]
  exact Store.settle_comm h.isMap hne _ _

/-- Storages do not interfere. The answer to a request about a storage depends on its cookies
through the cookie of this storage alone, and sets no other. Two visits about different storages
get the same answers in either order and leave the same cookies, from every store whose token
cookies can be read one by one; visits from an empty store lead to no others. -/
theorem storages_isolated (g : Gateway) {req : Inbound} {action : Action} {storage : String}
    (h : Gateway.subject? req = some (action, storage)) (service : Service) :
    (∀ other : Inbound, other.withoutCookies = req.withoutCookies →
      (∀ name, Session.cookieName? storage = some name →
        other.jar.value? name = req.jar.value? name) →
      g.serve service other = g.serve service req) ∧
    ((g.serve service req).1.headers.all "set-cookie").length ≤ 1 ∧
    (∀ value ∈ (g.serve service req).1.headers.all "set-cookie",
      Gateway.lineName? value = Session.cookieName? storage) ∧
    (∀ steps, (run g [] steps).IsSound) ∧
    ∀ (store : Store) (t : Step) (other : Action) (otherStorage : String), store.IsSound →
      Gateway.subject? t.request = some (other, otherStorage) → storage ≠ otherStorage →
      serve g (visit g store t) ⟨req, service⟩ = serve g store ⟨req, service⟩ ∧
      serve g (visit g store ⟨req, service⟩) t = serve g store t ∧
      (visit g (visit g store ⟨req, service⟩) t).sorted =
        (visit g (visit g store t) ⟨req, service⟩).sorted := by
  refine ⟨fun other halike hcookie => g.serve_congr h halike hcookie service,
    (g.setCookies_serve h service).1, (g.setCookies_serve h service).2,
    fun steps => Store.isSound_nil.run g steps, fun store t other otherStorage hsound ht hne => ?_⟩
  exact ⟨serve_after_visit g hsound ht h hne.symm, serve_after_visit g hsound h ht hne,
    sorted_visit_visit g hsound h ht hne⟩

/-- Two logouts: a foreign cookie does not change the first, and neither changes the other. -/
theorem storages_isolated_logouts :
    let g : Gateway :=
      ⟨⟨⟨"http", some { host := .domain "s" }, .segments [""], none, none⟩, []⟩, ⟨60, false⟩, 0⟩
    let logoutA : Inbound := { target := Bytes.ofAscii "/logout/a/" }
    let logoutB : Step := ⟨{ target := Bytes.ofAscii "/logout/b/" }, .unreachable⟩
    let store : Store := [("fs_a", "t"), ("fs_b", "u")]
    g.serve .unreachable { logoutA with headers := [.ofText "cookie" "fs_b=u"] } =
        g.serve .unreachable logoutA ∧
      serve g (visit g store logoutB) ⟨logoutA, .unreachable⟩ =
        serve g store ⟨logoutA, .unreachable⟩ := by
  intro g logoutA logoutB store
  have hA : Gateway.subject? logoutA = some (.within .logout, "a") := by decide
  have hB : Gateway.subject? logoutB.request = some (.within .logout, "b") := by decide
  have hsound : store.IsSound := by
    refine ⟨(by decide : (store.map Prod.fst).Nodup), fun storage value hmem => ?_⟩
    have hvalue : value = "t" ∨ value = "u" := by
      rcases List.mem_cons.mp hmem with heq | hmem
      · exact .inl (Prod.mk.inj heq).2
      · exact .inr (Prod.mk.inj (List.mem_singleton.mp hmem)).2
    rcases hvalue with rfl | rfl <;> decide
  have hisolated := storages_isolated g hA .unreachable
  refine ⟨hisolated.1 _ (by decide) fun name hname => ?_,
    (hisolated.2.2.2.2 store logoutB (.within .logout) "b" hsound hB (by decide)).1⟩
  obtain rfl : "fs_a" = name := Option.some.inj ((by decide : _ = some "fs_a").symm.trans hname)
  decide

/-- The answer to a visit, with the cookies as they are sent. -/
theorem serve_of_sorted (g : Gateway) {store : Store} {entries : List (String × String)}
    (hne : store ≠ []) (h : store.sorted = entries) (step : Step) :
    serve g store step = g.serve step.service
      { step.request with headers := step.request.withoutCookies.headers ++
          [.ofText "cookie" (fieldText entries)] } := by
  rw [serve, Store.request, Store.cookieField?, if_neg (by simpa using hne), h]
  rfl

/-- A token cookie that is not visible ASCII hides all others until a login replaces it. So a login
to one storage and a logout from another one do not commute. -/
theorem unreadable_cookie_interferes :
    let g : Gateway :=
      ⟨⟨⟨"http", some { host := .domain "s" }, .segments [""], none, none⟩, []⟩, ⟨60, false⟩, 0⟩
    let login : Step :=
      { request :=
          { method := "POST"
            target := Bytes.ofAscii "/login/a/"
            headers := [.ofText "content-type" "application/x-www-form-urlencoded"]
            body := ⟨[.data (Bytes.ofAscii "password=p")], []⟩ }
        service := .scripted [.reply { status := 200, body := Bytes.ofAscii "tok" }] }
    let logout : Step := ⟨{ target := Bytes.ofAscii "/logout/b/" }, .unreachable⟩
    let store : Store := [("fs_a", "é"), ("fs_b", "u")]
    Gateway.subject? login.request = some (.within .login, "a") ∧
      Gateway.subject? logout.request = some (.within .logout, "b") ∧
      (serve g store logout).1.headers.all "set-cookie" = [] ∧
      (serve g (visit g store login) logout).1.headers.all "set-cookie" ≠ [] ∧
      (visit g (visit g store login) logout).sorted = [("fs_a", "tok")] ∧
      (visit g (visit g store logout) login).sorted = [("fs_a", "tok"), ("fs_b", "u")] := by
  intro g login logout store
  have hsorted {s : Store} {value : String} (hperm : [("fs_a", value), ("fs_b", "u")].Perm s)
      (hnames : (s.map Prod.fst).Nodup) : s.sorted = [("fs_a", value), ("fs_b", "u")] :=
    (Store.eq_sorted hnames hperm (by simp)).symm
  have hstore : store.sorted = store := hsorted (.refl _) (by decide)
  have hhidden : (serve g store logout).1.headers.all "set-cookie" = [] := by
    rw [serve_of_sorted g (by decide) hstore]
    decide +kernel
  have hkept : visit g store logout = store := by rw [visit, Store.receive, hhidden]; rfl
  have hlogin : visit g store login = [("fs_b", "u"), ("fs_a", "tok")] := by
    rw [visit, serve_of_sorted g (by decide) hstore]
    decide +kernel
  have hboth : Store.sorted [("fs_b", "u"), ("fs_a", "tok")] = [("fs_a", "tok"), ("fs_b", "u")] :=
    hsorted (.swap _ _ _) (by decide)
  have hlogout := serve_of_sorted g (List.cons_ne_nil _ _) hboth logout
  refine ⟨by decide, by decide, hhidden, ?_, ?_, by rw [hkept, hlogin, hboth]⟩
  · rw [hlogin, hlogout]
    decide +kernel
  · have hlast : visit g [("fs_b", "u"), ("fs_a", "tok")] logout = [("fs_a", "tok")] := by
      rw [visit, hlogout]
      decide +kernel
    rw [hlogin, hlast]
    exact List.mergeSort_singleton _

end Browser

end StorageGateway
