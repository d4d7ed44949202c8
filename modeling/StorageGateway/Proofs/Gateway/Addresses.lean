import StorageGateway.Proofs.Gateway.Calls
import StorageGateway.Proofs.Route.Selection

/-!
# The addresses of files

The address of a file consists of the name of its storage and its own name, with the word for the
permanent area between them or without. Other things have addresses of the same form, and a few
words are reserved for them. Under all other names a file is found at its address, also under the
words that order something when they come with a form, and under the reserved names it is not.

## Main definitions

* `Files.address`: the address of a file in one of the two areas.
* `Files.Candidate`: the routes that may match the address of a file.
* `Files.IsReserved`: the names that are reserved for other things.

## Main results

* `Files.candidate_of_matches`: no other route matches the address of a file.
* `Gateway.action?_address`: the best of the candidates gives the action.
* `Gateway.address_leads_to_file_iff`: the names under which a file is found.
-/

namespace StorageGateway

open Route

/-! ### Addresses -/

/-- The segments that name an area. -/
def Route.area (isPermanent : Bool) : Pattern := if isPermanent then [permanent] else []

namespace Files

/-- The address of a file in one of the two areas. -/
def address (isPermanent : Bool) (storage file : String) : String :=
  "/" ++ Percent.encodeComponent storage ++ (if isPermanent then "/permanent/" else "/") ++
    Percent.encodeComponent file ++ "/"

/-- The segments of the address of a file. -/
def segments (isPermanent : Bool) (storage file : String) : List Bytes :=
  (storage :: (if isPermanent then ["permanent"] else []) ++ [file, ""]).map segmentOf

variable {isPermanent : Bool} {storage file : String}

theorem segments_address (isPermanent : Bool) (storage file : String) :
    Route.segments (pathOf (Bytes.ofAscii (address isPermanent storage file))) =
      segments isPermanent storage file := by
  have hslash : Bytes.ofAscii "/" = [0x2F] := by decide
  have hword : Bytes.ofAscii "/permanent/" = 0x2F :: segmentOf "permanent" ++ [0x2F] := by decide
  have haddress : Bytes.ofAscii (address isPermanent storage file) =
      0x2F :: [0x2F].intercalate (segments isPermanent storage file) := by
    cases isPermanent with
    | false =>
      simp only [address, Bool.false_eq_true, if_false, Bytes.ofAscii_append, hslash]
      rw [← segmentOf, ← segmentOf]
      simp [segments]
    | true =>
      simp only [address, if_true, Bytes.ofAscii_append, hslash, hword]
      rw [← segmentOf, ← segmentOf]
      simp [segments]
  rw [haddress]
  refine segments_pathOf (by simp [segments]) fun part hpart b hb => ?_
  obtain ⟨name, -, rfl⟩ := List.mem_map.mp hpart
  exact isPathByte_of_mem hb

/-! ### Candidates -/

/-- The words that order something when they come with a form. -/
def orders : List (String × StorageAction) :=
  [("upload", .upload), ("remove", .remove), ("shareText", .shareText)]

/-- The routes that may match the address of a file. -/
inductive Candidate (isPermanent : Bool) (storage file : String) : Route → Prop
  | file : Candidate isPermanent storage file
      (about (Route.storage :: area isPermanent ++ [Route.file, slash]) { isPermanent }
        (some .download))
  | order {action : StorageAction} (word : (file, action) ∈ orders) :
      Candidate isPermanent storage file (order (area isPermanent) { isPermanent } file action)
  | resource (word : storage = "res") : Candidate isPermanent storage file
      { pattern := [.literal "res", .rest "path"], get := some .resource }
  | login (area : isPermanent = false) (word : storage = "login") :
      Candidate isPermanent storage file
        (about [.literal "login", Route.storage, slash] .ofPublic (some .loginPage) (some .login))
  | logout (area : isPermanent = false) (word : storage = "logout") :
      Candidate isPermanent storage file
        (about [.literal "logout", Route.storage, slash] .ofPublic (some .logout))
  | view (area : isPermanent = false) (word : file = "permanent") :
      Candidate isPermanent storage file
        (about [Route.storage, permanent, slash] .ofPermanent (some .view))

theorem Candidate.mem {r : Route} (h : Candidate isPermanent storage file r) : r ∈ table := by
  cases h with
  | file => cases isPermanent <;> decide
  | order hword =>
    simp only [orders, List.mem_cons, Prod.mk.injEq, List.not_mem_nil, or_false] at hword
    rcases hword with ⟨rfl, rfl⟩ | ⟨rfl, rfl⟩ | ⟨rfl, rfl⟩ <;> cases isPermanent <;> decide
  | resource => decide
  | login => decide
  | logout => decide
  | view => decide

/-- No other route matches the address of a file. -/
theorem candidate_of_matches : ∀ r ∈ table,
    (matchSegments? r.pattern (segments isPermanent storage file)).isSome →
      Candidate isPermanent storage file r := by
  have horder {word : String} {action : StorageAction} (hmem : (word, action) ∈ orders)
      (hword : file = word) : Candidate isPermanent storage file
        (order (area isPermanent) { isPermanent } word action) := by
    subst hword
    exact .order hmem
  -- A route that is no candidate has another number of segments, or a literal in place of the word.
  cases isPermanent with
  | false =>
    simp (disch := decide) [segments, table, areaRoutes, about, Route.order, Route.storage,
      Route.file, slash, permanent, matchSegments?, segmentOf_eq_iff, Scope.Flags.ofPrivate,
      Scope.Flags.ofPermanent]
    exact ⟨.resource, .login rfl, .logout rfl, .file, horder (by decide), horder (by decide),
      horder (by decide), .view rfl⟩
  | true =>
    simp (disch := decide) [segments, table, areaRoutes, about, Route.order, Route.storage,
      Route.file, slash, permanent, matchSegments?, segmentOf_eq_iff, Scope.Flags.ofPrivate,
      Scope.Flags.ofPermanent]
    exact ⟨.resource, .file, horder (by decide), horder (by decide), horder (by decide)⟩

/-- A word orders one thing. -/
theorem eq_of_mem_orders {word : String} {action action' : StorageAction}
    (h : (word, action) ∈ orders) (h' : (word, action') ∈ orders) : action = action' := by
  have hall : ∀ p ∈ orders, ∀ q ∈ orders, p.1 = q.1 → p.2 = q.2 := by decide
  exact hall _ h _ h' rfl

/-- The name of a file is captured like that of its storage. -/
theorem matches_file (isPermanent : Bool) (storage file : String) :
    matchSegments? (Route.storage :: area isPermanent ++ [Route.file, slash])
      (segments isPermanent storage file) =
        some [("storage", segmentOf storage), ("file", segmentOf file)] := by
  cases isPermanent <;>
    simp (disch := decide) [segments, area, Route.storage, Route.file, slash, permanent,
      matchSegments?, segmentOf_eq_iff]

/-- A word that orders something is not captured. -/
theorem matches_order {action : StorageAction} (hword : (file, action) ∈ orders) :
    matchSegments? (Route.storage :: area isPermanent ++ [.literal file, slash])
      (segments isPermanent storage file) = some [("storage", segmentOf storage)] := by
  simp only [orders, List.mem_cons, Prod.mk.injEq, List.not_mem_nil, or_false] at hword
  rcases hword with ⟨rfl, rfl⟩ | ⟨rfl, rfl⟩ | ⟨rfl, rfl⟩ <;> cases isPermanent <;>
    simp (disch := decide) [segments, area, Route.storage, slash, permanent, matchSegments?,
      segmentOf_eq_iff]

theorem matches_resource : (matchSegments? [.literal "res", .rest "path"]
    (segments isPermanent "res" file)).isSome := by
  cases isPermanent <;> simp (disch := decide) [segments, matchSegments?, segmentOf_eq_iff]

theorem matches_word {word : String} (hword : Percent.encodeComponent word = word) :
    (matchSegments? [.literal word, Route.storage, slash]
      (segments false word file)).isSome := by
  have hend : segmentOf "" = Bytes.ofAscii "" := rfl
  simp [segments, Route.storage, slash, matchSegments?, segmentOf_eq_iff hword, hend]

theorem matches_view : (matchSegments? [Route.storage, permanent, slash]
    (segments false storage "permanent")).isSome := by
  simp (disch := decide) [segments, Route.storage, slash, permanent, matchSegments?,
    segmentOf_eq_iff]

/-- The names that are reserved for other things than files. -/
def IsReserved (isPermanent : Bool) (storage file : String) : Prop :=
  storage = "res" ∨
    isPermanent = false ∧ (storage = "login" ∨ storage = "logout" ∨ file = "permanent")

/-- Under a free name there is the file itself, and possibly an order. -/
theorem Candidate.of_free (hfree : ¬IsReserved isPermanent storage file) {r : Route}
    (h : Candidate isPermanent storage file r) :
    r = about (Route.storage :: area isPermanent ++ [Route.file, slash]) { isPermanent }
        (some .download) ∨
      ∃ action, (file, action) ∈ orders ∧
        r = Route.order (area isPermanent) { isPermanent } file action := by
  cases h with
  | file => exact .inl rfl
  | order hword => exact .inr ⟨_, hword, rfl⟩
  | resource hword => exact absurd (.inl hword) hfree
  | login harea hword => exact absurd (.inr ⟨harea, .inl hword⟩) hfree
  | logout harea hword => exact absurd (.inr ⟨harea, .inr (.inl hword)⟩) hfree
  | view harea hword => exact absurd (.inr ⟨harea, .inr (.inr hword)⟩) hfree

/-- Under a reserved name the best candidate does something else. -/
theorem exists_best_of_isReserved (h : IsReserved isPermanent storage file) :
    ∃ r action, Candidate isPermanent storage file r ∧ r.get = some action ∧
      action.endpoint? ≠ some "file" ∧
      (matchSegments? r.pattern (segments isPermanent storage file)).isSome ∧
      ∀ other, Candidate isPermanent storage file other →
        other = r ∨ beats r.pattern other.pattern = true := by
  -- The words are ranked: a word at the start of a pattern beats one that stands behind it.
  by_cases hres : storage = "res"
  · subst hres
    refine ⟨_, _, .resource rfl, rfl, by decide, matches_resource, fun other hother => ?_⟩
    cases hother with
    | resource => exact .inl rfl
    | login _ hword | logout _ hword => exact absurd hword (by decide)
    | _ => exact .inr rfl
  obtain ⟨rfl, hword⟩ := h.resolve_left hres
  by_cases hlogin : storage = "login"
  · subst hlogin
    refine ⟨_, _, .login rfl rfl, rfl, by decide, matches_word rfl, fun other hother => ?_⟩
    cases hother with
    | login => exact .inl rfl
    | resource hword | logout _ hword => exact absurd hword (by decide)
    | _ => exact .inr rfl
  by_cases hlogout : storage = "logout"
  · subst hlogout
    refine ⟨_, _, .logout rfl rfl, rfl, by decide, matches_word rfl, fun other hother => ?_⟩
    cases hother with
    | logout => exact .inl rfl
    | resource hword | login _ hword => exact absurd hword (by decide)
    | _ => exact .inr rfl
  obtain rfl := (hword.resolve_left hlogin).resolve_left hlogout
  refine ⟨_, _, .view rfl rfl, rfl, by decide, matches_view, fun other hother => ?_⟩
  cases hother with
  | view => exact .inl rfl
  | file => exact .inr rfl
  | order hword => exact absurd hword (by simp [orders])
  | resource hword => exact absurd hword hres
  | login _ hword => exact absurd hword hlogin
  | logout _ hword => exact absurd hword hlogout

end Files

/-! ### Plans -/

/-- A request that asks for an address. -/
def Inbound.asking (req : Inbound) (address : String) : Inbound :=
  { req with method := "GET", target := Bytes.ofAscii address }

theorem Inbound.target_asking (req : Inbound) (address : String) :
    (req.asking address).target = Bytes.ofAscii address := rfl

namespace Gateway

variable {g : Gateway} {req : Inbound} {storage file : String} {isPermanent : Bool}

/-- The best of the candidates gives the action. -/
theorem action?_address (req : Inbound) {r : Route} {action : Action} {captures : Captures}
    (hr : Files.Candidate isPermanent storage file r) (haction : r.get = some action)
    (hmatch : matchSegments? r.pattern (Files.segments isPermanent storage file) = some captures)
    (hbest : ∀ other, Files.Candidate isPermanent storage file other →
      other = r ∨ beats r.pattern other.pattern = true) :
    action? (req.asking (Files.address isPermanent storage file)) =
      some (action, r.flags, captures) := by
  have hpath (pattern : Pattern) :
      matchPath? pattern (pathOf (req.asking (Files.address isPermanent storage file)).target) =
        matchSegments? pattern (Files.segments isPermanent storage file) := by
    rw [matchPath?, Inbound.target_asking, Files.segments_address]
  have hroute : route? table (req.asking (Files.address isPermanent storage file)) =
      some (r, captures) := by
    refine select?_eq_of_forall_beats hr.mem ?_ fun other hother hmatches => ?_
    · rw [hpath, hmatch]
    · rw [hpath] at hmatches
      exact hbest other (Files.candidate_of_matches other hother hmatches)
  have haction' :
      r.action? (req.asking (Files.address isPermanent storage file)).method = some action := by
    rw [Route.action?, if_pos (.inl rfl), haction]
  simp only [action?, hroute, Option.bind_some, haction', Option.map_some]

/-- Under a free name the address leads to the file. -/
theorem plan?_address_of_free (hstorage : storage ≠ "") (hfile : file ≠ "")
    (hfree : ¬Files.IsReserved isPermanent storage file) :
    g.plan? (req.asking (Files.address isPermanent storage file)) =
      some (Files.download { storage, isPermanent, file := some file }) := by
  by_cases hword : ∃ action, (file, action) ∈ Files.orders
  · obtain ⟨action, hmem⟩ := hword
    have hscope : Scope.ofCaptures { isPermanent } [("storage", segmentOf storage)] =
        .ok { storage, isPermanent } := by
      simp [Scope.ofCaptures, Captures.texts?, Except.map, Scope.ofTexts, Scope.captured?,
        hstorage]
    have haction := action?_address req (.order hmem) rfl (Files.matches_order hmem)
      fun other hother => by
        rcases hother.of_free hfree with rfl | ⟨action', hmem', rfl⟩
        · cases isPermanent <;> exact .inr rfl
        · exact .inl (by rw [Files.eq_of_mem_orders hmem hmem'])
    simp only [plan?, haction, Option.map_some, plan, order, about, hscope]
    rfl
  · have hscope : Scope.ofCaptures { isPermanent }
        [("storage", segmentOf storage), ("file", segmentOf file)] =
          .ok { storage, isPermanent, file := some file } := by
      simp [Scope.ofCaptures, Captures.texts?, Except.map, Scope.ofTexts, Scope.captured?,
        hstorage, hfile]
    have haction := action?_address req .file rfl
      (Files.matches_file isPermanent storage file) fun other hother => by
        rcases hother.of_free hfree with rfl | ⟨action, hmem, -⟩
        · exact .inl rfl
        · exact absurd ⟨action, hmem⟩ hword
    simp only [plan?, haction, Option.map_some, plan, about, hscope]
    rfl

/-- Under a reserved name the address leads to no file. -/
theorem plan?_address_of_isReserved
    (hreserved : Files.IsReserved isPermanent storage file) (s : Scope) :
    g.plan? (req.asking (Files.address isPermanent storage file)) ≠ some (Files.download s) := by
  obtain ⟨r, action, hr, hget, hendpoint, hmatches, hbest⟩ :=
    Files.exists_best_of_isReserved hreserved
  obtain ⟨captures, hcaptures⟩ := Option.isSome_iff_exists.mp hmatches
  have haction := action?_address req hr hget hcaptures hbest
  intro hplan
  rw [plan?, haction, Option.map_some, Option.some_inj] at hplan
  exact hendpoint (ask_cases haction hplan).1.endpoint_eq

/-- A file in the private area is found at its address unless the name of its storage is `res`,
`login` or `logout` or its own name is `permanent`; one in the permanent area unless the name of
its storage is `res`. -/
theorem address_leads_to_file_iff (g : Gateway) (req : Inbound) (hstorage : storage ≠ "")
    (hfile : file ≠ "") :
    (g.plan? (req.asking (Files.address false storage file)) =
        some (Files.download { storage, file := some file }) ↔
      storage ∉ ["res", "login", "logout"] ∧ file ≠ "permanent") ∧
    (g.plan? (req.asking (Files.address true storage file)) =
        some (Files.download { storage, isPermanent := true, file := some file }) ↔
      storage ≠ "res") := by
  have hiff (isPermanent : Bool) :
      g.plan? (req.asking (Files.address isPermanent storage file)) =
          some (Files.download { storage, isPermanent, file := some file }) ↔
        ¬Files.IsReserved isPermanent storage file :=
    ⟨fun hplan hreserved => plan?_address_of_isReserved hreserved _ hplan,
      plan?_address_of_free hstorage hfile⟩
  refine ⟨(hiff false).trans ?_, (hiff true).trans ?_⟩
  · simp only [Files.IsReserved, true_and, not_or, List.mem_cons, List.not_mem_nil, or_false,
      and_assoc]
  · simp only [Files.IsReserved, Bool.true_eq_false, false_and, or_false]

/-- Words that stand in other addresses are names of files and storages, too. -/
theorem address_leads_to_file_iff_words :
    let g : Gateway := ⟨⟨⟨"http", some { host := .domain "s" }, .segments [""], none, none⟩, []⟩,
      ⟨60, false⟩, 0⟩
    let req : Inbound := { target := [] }
    Files.address false "favicon.ico" "upload" = "/favicon.ico/upload/" ∧
      g.plan? (req.asking "/favicon.ico/upload/") =
        some (Files.download { storage := "favicon.ico", file := some "upload" }) ∧
      Files.address true "permanent" "index.html" = "/permanent/permanent/index.html/" ∧
      g.plan? (req.asking "/permanent/permanent/index.html/") = some (Files.download
        { storage := "permanent", isPermanent := true, file := some "index.html" }) := by
  intro g req
  have hprivate : Files.address false "favicon.ico" "upload" = "/favicon.ico/upload/" := by decide
  have hpermanent : Files.address true "permanent" "index.html" =
      "/permanent/permanent/index.html/" := by decide
  refine ⟨hprivate, ?_, hpermanent, ?_⟩
  · rw [← hprivate]
    exact (address_leads_to_file_iff g req (by decide) (by decide)).1.mpr (by decide)
  · rw [← hpermanent]
    exact (address_leads_to_file_iff g req (by decide) (by decide)).2.mpr (by decide)

end Gateway

end StorageGateway
