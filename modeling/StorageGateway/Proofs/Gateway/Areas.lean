import StorageGateway.Proofs.Gateway.Calls
import StorageGateway.Proofs.Gateway.Reports

/-!
# The storage and the area of a call

A storage that has a name has a private and a permanent area, which the addresses tell apart. A
call that has parameters names its storage, and says that it is about the permanent area exactly
when the address does. Hence two requests about different storages, or about different areas of
one, never lead to the same call. The address of a storage without a name has areas, too, but there
is one such storage only, and the service is not told of an area of it.

## Main definitions

* `Gateway.IsPermanent`: requests at an address of a permanent area.

## Main results

* `Action.filter_parameters`: the storage and the area among the parameters of a call.
* `Gateway.calls_tell_storage_and_area`: requests that lead to different calls.
-/

namespace StorageGateway

/-- The routes of the permanent area have its word in their addresses. -/
theorem Route.isPermanent_flags_eq :
    ∀ r ∈ Route.table, r.flags.isPermanent = r.pattern.contains Route.permanent := by decide

/-- The parameters that tell of an area. -/
def Call.areaValues (isPermanent : Bool) (storage : String) : List (String × String) :=
  if isPermanent ∧ storage ≠ "" then [("permanent", "true")] else []

/-- The areas of a storage that has a name are told apart. -/
theorem Call.areaValues_inj {storage : String} (hne : storage ≠ "") {isPermanent other : Bool} :
    areaValues isPermanent storage = areaValues other storage ↔ isPermanent = other := by
  cases isPermanent <;> cases other <;> simp [areaValues, hne]

namespace Scope.Flags

variable (flags : Flags) (storage file : String)

theorem filter_storage_values :
    (flags.values storage file).filter (·.1 == "storage") = [("storage", storage)] := by
  rw [values]
  cases flags.isPublic <;> by_cases h : flags.isPermanent ∧ storage ≠ "" <;> simp [h]

theorem filter_permanent_values :
    (flags.values storage file).filter (·.1 == "permanent") =
      Call.areaValues flags.isPermanent storage := by
  rw [values, Call.areaValues]
  cases flags.isPublic <;> by_cases h : flags.isPermanent ∧ storage ≠ "" <;> simp [h]

end Scope.Flags

/-- The storage and the area among the parameters of a call. -/
theorem Action.filter_parameters (flags : Scope.Flags) (captures : Route.Captures) (req : Inbound)
    {action : StorageAction} (hcall : (Action.within action).endpoint?.isSome)
    (hupload : action ≠ .upload) :
    ((Action.within action).parameters flags captures req).filter (·.1 == "storage") =
        [("storage", (captures.text? "storage").getD "")] ∧
      ((Action.within action).parameters flags captures req).filter (·.1 == "permanent") =
        Call.areaValues flags.isPermanent ((captures.text? "storage").getD "") := by
  cases action with
  | loginPage | logout => cases hcall
  | upload => exact absurd rfl hupload
  | login | shareText =>
    rw [parameters, List.filter_append, List.filter_append, Scope.Flags.filter_storage_values,
      Scope.Flags.filter_permanent_values]
    exact ⟨List.append_nil _, List.append_nil _⟩
  | index | view | download | downloadNamed | remove =>
    exact ⟨flags.filter_storage_values _ _, flags.filter_permanent_values _ _⟩

namespace Gateway

variable {g : Gateway} {req : Inbound} {first : Request} {storage : String}
  {action : StorageAction}

/-- Whether the address of a request is one of a permanent area. -/
def isPermanent (req : Inbound) : Bool :=
  (route? Route.table req).any fun (r, _) => r.pattern.contains Route.permanent

/-- What a request is about, in terms of its path. -/
theorem exists_captures_of_subject? (h : subject? req = some (.within action, storage)) :
    ∃ flags captures, action? req = some (.within action, flags, captures) ∧
      storage = (captures.text? "storage").getD "" ∧ flags.isPermanent = isPermanent req := by
  obtain ⟨flags, captures, s, haction, hscope, rfl, -⟩ := exists_scope_of_subject? h
  obtain ⟨r, hr, rfl, -, hroute, hnames⟩ := exists_route_of_action? haction
  refine ⟨r.flags, captures, haction, ?_, ?_⟩
  · exact (Scope.ofCaptures_eq_ok (hnames ▸ Route.nodup_names r hr) hscope).1
  · rw [Route.isPermanent_flags_eq r hr, isPermanent, hroute]
    rfl

/-- The parameters of a call name its storage and tell of its area. -/
theorem Reaches.parameters (h : g.Reaches req first)
    (hsubject : subject? req = some (.within action, storage)) (hupload : action ≠ .upload) :
    ∃ endpoint address, (Action.within action).endpoint? = some endpoint ∧
      Backend.endpoint? g.backend.base endpoint = .ok address ∧
      (first.parameters address).filter (·.1 == "storage") = [("storage", storage)] ∧
      (first.parameters address).filter (·.1 == "permanent") =
        Call.areaValues (isPermanent req) storage := by
  obtain ⟨flags, captures, haction, rfl, hpermanent⟩ := exists_captures_of_subject? hsubject
  obtain ⟨storage', call, next, hplan, hfirst⟩ := h
  rw [plan?, haction, Option.map_some, Option.some_inj] at hplan
  obtain ⟨hcall, -⟩ := ask_cases haction hplan
  obtain ⟨address, haddress, rfl⟩ := Backend.exists_address_of_requestWith? hfirst
  have hendpoint := hcall.endpoint_eq
  have hparameters : (g.backend.requestTo address call (Session.token? req.jar storage')).parameters
      address = (Action.within action).parameters flags captures req := by
    cases hcall with
    | question => exact g.backend.parameters_requestTo_get _ _ _ _
    | order => exact g.backend.parameters_requestTo_postForm _ _ _ _
    | files _ hfiles => exact absurd (Action.within.inj hfiles) hupload
  refine ⟨call.endpoint, address, hendpoint, haddress, ?_⟩
  rw [hparameters, ← hpermanent]
  exact Action.filter_parameters flags captures req (by rw [hendpoint, Option.isSome_some]) hupload

/-- No other action asks the endpoint that files are sent to. -/
theorem eq_upload_of_endpoint? (h : (Action.within action).endpoint? = some "upload") :
    action = .upload := by
  cases action <;> simp [Action.endpoint?] at h ⊢

/-- What is sent tells which storage it is about, and which area of it: requests about different
storages, or about different areas of a storage that has a name, do not lead to the same one. -/
theorem calls_tell_storage_and_area {service : Service} {rest : List Request}
    (hsent : (g.serve service req).2 = first :: rest)
    (hsubject : subject? req = some (.within action, storage)) (hupload : action ≠ .upload) :
    ∃ endpoint address, (Action.within action).endpoint? = some endpoint ∧
      Backend.endpoint? g.backend.base endpoint = .ok address ∧
      (first.parameters address).filter (·.1 == "storage") = [("storage", storage)] ∧
      (first.parameters address).filter (·.1 == "permanent") =
        (if isPermanent req ∧ storage ≠ "" then [("permanent", "true")] else []) ∧
      ∀ (other : Inbound) (action' : StorageAction) (storage' : String),
        subject? other = some (.within action', storage') →
        (Action.within action').endpoint? = some endpoint →
        storage' ≠ storage ∨ storage ≠ "" ∧ isPermanent other ≠ isPermanent req →
        ∀ (service' : Service) (rest' : List Request),
          (g.serve service' other).2 ≠ first :: rest' := by
  obtain ⟨endpoint, address, hendpoint, haddress, hstorage, harea⟩ :=
    (reaches_iff.mpr ⟨service, rest, hsent⟩).parameters hsubject hupload
  refine ⟨endpoint, address, hendpoint, haddress, hstorage, harea,
    fun other action' storage' hsubject' hendpoint' hdifferent service' rest' hsent' => ?_⟩
  have hupload' : action' ≠ .upload := by
    rintro rfl
    cases hendpoint'
    exact hupload (eq_upload_of_endpoint? hendpoint)
  obtain ⟨endpoint'', address', hendpoint'', haddress', hstorage', harea'⟩ :=
    (reaches_iff.mpr ⟨service', rest', hsent'⟩).parameters hsubject' hupload'
  cases hendpoint'.symm.trans hendpoint''
  cases haddress.symm.trans haddress'
  obtain rfl : storage' = storage := by simpa using hstorage'.symm.trans hstorage
  obtain ⟨hne, hareas⟩ := hdifferent.resolve_left (not_not_intro rfl)
  exact hareas ((Call.areaValues_inj hne).mp (harea'.symm.trans harea))

/-- The listings of the two areas of a storage are asked for in different words. -/
theorem calls_tell_storage_and_area_view :
    let g : Gateway :=
      ⟨⟨⟨"http", some { host := .domain "s" }, .segments [""], none, none⟩, []⟩, ⟨60, false⟩, 0⟩
    let listing : Inbound := { target := Bytes.ofAscii "/a/permanent/" }
    let other : Inbound := { target := Bytes.ofAscii "/a/" }
    ∃ first, (g.serve (.scripted []) listing).2 = [first] ∧
      first.url.parameters = [("storage", "a"), ("permanent", "true"), ("file", "")] ∧
      ∀ service rest, (g.serve service other).2 ≠ first :: rest := by
  intro g listing other
  have hsubject : subject? listing = some (.within .view, "a") := by decide +kernel
  have hother : subject? other = some (.within .view, "a") := by decide +kernel
  have hareas : isPermanent other ≠ isPermanent listing := by decide +kernel
  have hsent : (g.serve (.scripted []) listing).2.map (·.url.parameters) =
      [[("storage", "a"), ("permanent", "true"), ("file", "")]] := by decide +kernel
  obtain ⟨first, hfirst, hparameters⟩ := List.map_eq_singleton_iff.mp hsent
  obtain ⟨endpoint, address, hendpoint, -, -, -, hdifferent⟩ :=
    calls_tell_storage_and_area hfirst hsubject (by decide)
  exact ⟨first, hfirst, hparameters,
    hdifferent other .view "a" hother hendpoint (.inr ⟨by decide, hareas⟩)⟩

/-- The areas of a storage without a name are not told apart, nor are uploads to different
storages. -/
theorem areas_without_name_are_alike :
    let g : Gateway :=
      ⟨⟨⟨"http", some { host := .domain "s" }, .segments [""], none, none⟩, []⟩, ⟨60, false⟩, 0⟩
    let listing (target : String) : Inbound := { target := Bytes.ofAscii target }
    let upload (target : String) : Inbound :=
      { method := "POST"
        target := Bytes.ofAscii target
        headers := [.ofText "content-type" "multipart/form-data; boundary=B"]
        body := ⟨[.data (Bytes.ofAscii ("--B\r\nContent-Disposition: form-data; name=\"f\"; " ++
          "filename=\"a.txt\"\r\n\r\nx\r\n--B--\r\n"))], []⟩ }
    subject? (listing "//") = some (.within .view, "") ∧ isPermanent (listing "//") = false ∧
      subject? (listing "//permanent/") = some (.within .view, "") ∧
      isPermanent (listing "//permanent/") = true ∧
      (g.serve (.scripted []) (listing "//")).2 ≠ [] ∧
      (g.serve (.scripted []) (listing "//")).2 =
        (g.serve (.scripted []) (listing "//permanent/")).2 ∧
      subject? (upload "/a/upload/") = some (.within .upload, "a") ∧
      subject? (upload "/b/upload/") = some (.within .upload, "b") ∧
      (g.serve (.scripted []) (upload "/a/upload/")).2 ≠ [] ∧
      (g.serve (.scripted []) (upload "/a/upload/")).2 =
        (g.serve (.scripted []) (upload "/b/upload/")).2 ∧
      (g.serve (.scripted []) (upload "/a/upload/")).2 =
        (g.serve (.scripted []) (upload "/a/permanent/upload/")).2 := by
  decide +kernel

end Gateway

end StorageGateway
