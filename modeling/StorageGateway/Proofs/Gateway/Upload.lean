import StorageGateway.Proofs.Multipart.Form
import StorageGateway.Proofs.Multipart.Refusal
import StorageGateway.Proofs.Session.Bearer

/-!
# Uploads

The body of an upload is read, its files are picked out, and a new body is written with one section
for each of them. Cutting this body at its delimiter lines gives the files that were found, in the
order of the form and with their contents; no other field leaves a trace. The names are written
with two backslashes for each one.

All files of a form are sent on unless a file name ends in a backslash or belongs to a field whose
own name misleads the search for it; such a file is lost.

## Main definitions

* `Inbound.Submits`: requests that submit a form.
* `FilePart.plainSection`, `Multipart.Carries`: the section that a file should be sent as, and the
  bodies that consist of such sections.

## Main results

* `Gateway.serve_upload`: the request that an upload gives rise to.
* `Gateway.upload_forwards_files`: the files of a form in this request.
-/

namespace StorageGateway

open Multipart

/-- A request that submits a form, in pieces of any size. The boundary is the one that the media
type names; as in any form, no content holds its delimiter. -/
structure Inbound.Submits (boundary : Bytes) (fields : List FormField) (req : Inbound) : Prop where
  mediaType : (req.headers.first? "content-type").bind boundary? = some boundary
  body : ∃ pieces : List Bytes, req.body.chunks = pieces.map .data ∧
    pieces.flatten = FormField.encode boundary fields
  writable : ∀ f ∈ fields, f.IsWritable
  clear : ∀ f ∈ fields, ¬(crlf ++ delimiter boundary) <:+: f.data

/-- The files of a form are found whatever the pieces are. -/
theorem Inbound.Submits.read {boundary : Bytes} {fields : List FormField} {req : Inbound}
    (h : req.Submits boundary fields) {limit : Nat}
    (hlimit : exceeds limit (FormField.encode boundary fields).length = false) :
    Multipart.read req.headers limit req.body = .ok (fields.filterMap FormField.found?) := by
  obtain ⟨contentType, -, hboundary⟩ := Option.bind_eq_some_iff.mp h.mediaType
  obtain ⟨pieces, hbody, hpieces⟩ := h.body
  have hscan := FormField.scan_encode (notMem_boundary? hboundary) h.writable h.clear
  refine (read_eq_ok_iff h.mediaType).mpr ⟨pieces, [], ⟨req.body.bursts, ?_, ?_⟩, ?_, ?_⟩
  · exact (List.append_nil _).symm
  · rw [req.body.flatten_bursts, hbody]
  · rw [hpieces, hscan]
  · rw [hpieces, hlimit]

/-! ### Sections of files with plain names -/

namespace FilePart

/-- A name with two backslashes for each one. -/
def doubled (name : String) : String :=
  String.ofList (name.toList.flatMap fun c => if c = '\\' then ['\\', '\\'] else [c])

/-- The section that a file should be sent as: its name stands behind `name` as it is and behind
`filename` with two backslashes for each one. -/
def plainSection (f : FilePart) : Section :=
  ⟨Utf8.ofString ("Content-Disposition: form-data; name=\"" ++ f.name ++ "\"; filename=\"" ++
    doubled f.name ++ "\""), f.data⟩

/-- A name without quotes and line breaks has nothing else to escape. -/
theorem toSection_eq_plainSection {f : FilePart}
    (h : ∀ c ∈ f.name.toList, 0x20 ≤ c.toNat ∧ c.toNat ≠ 0x7F ∧ c ≠ '"') :
    f.toSection = f.plainSection := by
  have hescaped : escapeName f.name = doubled f.name := by
    rw [escapeName, doubled]
    congr 1
    refine List.flatMap_congr fun c hc => ?_
    obtain ⟨hlow, -, hquote⟩ := h c hc
    have hreturn : c ≠ '\r' := by
      rintro rfl
      exact absurd hlow (by decide)
    have hbreak : c ≠ '\n' := by
      rintro rfl
      exact absurd hlow (by decide)
    by_cases hslash : c = '\\'
    · rw [if_pos (.inl hslash), if_pos hslash, hslash]
    · rw [if_neg (by simp [hslash, hquote, hreturn, hbreak]), if_neg hslash]
  unfold toSection plainSection disposition
  rw [hescaped]

end FilePart

/-- A body whose sections are those that these files should be sent as, in this order. -/
def Multipart.Carries (boundary body : Bytes) (files : List FilePart) : Prop :=
  sections? boundary body = some (files.map FilePart.plainSection)

/-- The section of a file that is meant. -/
theorem FormField.toSection_of_meant? {f : FormField} (h : f.IsWritable) {file : FilePart}
    (hfile : f.meant? = some file) : file.toSection = file.plainSection := by
  obtain ⟨n, hn, rfl⟩ := Option.map_eq_some_iff.mp hfile
  exact FilePart.toSection_eq_plainSection (h.fileName n (Option.filter_eq_some_iff.mp hn).1)

/-! ### The request to the service -/

namespace Gateway

variable {o : Options} {g : Gateway} {req : Inbound} {storage : String}

/-- The plan of an upload whose files can be read. -/
theorem plan?_upload (h : subject? req = some (.within .upload, storage)) {files : List FilePart}
    (hread : Multipart.read req.headers g.uploadLimit req.body = .ok files) :
    g.plan? req =
      some ((Errand.ask (.postFiles "upload" files) (.present Files.done)).plan storage) := by
  obtain ⟨⟨action, flags, captures⟩, haction, h⟩ := Option.bind_eq_some_iff.mp h
  obtain ⟨named, hstorage, hpair⟩ := Option.map_eq_some_iff.mp h
  cases hpair
  rw [Action.storage?] at hstorage
  cases hscope : Scope.ofCaptures flags captures with
  | error f =>
    rw [hscope] at hstorage
    cases hstorage
  | ok s =>
    rw [hscope] at hstorage
    cases hstorage
    rw [plan?, haction, Option.map_some]
    simp only [plan, hscope, storagePlan, Files.upload, hread]
    rfl

/-- What an upload whose files can be read sends. -/
theorem received_upload (hsubject : subject? req = some (.within .upload, storage))
    {files : List FilePart}
    (hread : Multipart.read req.headers g.uploadLimit req.body = .ok files) (service : Service) :
    (g.serve service req).2 =
      ((Errand.ask (.postFiles "upload" files) (.present Files.done)).settle g.backend service
        storage (Session.token? req.jar storage) (Session.isHeld req.jar storage)).received := by
  rw [serve_of_plan? (plan?_upload hsubject hread), Plan.run_errand _ _ _ req.changes_jar]

/-- An upload without an address to be sent to sends nothing. -/
theorem serve_upload_of_not_isReadable (hbase : o.baseUrl = .ok g.backend.base)
    (hlong : ¬g.backend.base.isReadable = true)
    (hsubject : subject? req = some (.within .upload, storage)) {files : List FilePart}
    (hread : Multipart.read req.headers g.uploadLimit req.body = .ok files) (service : Service) :
    (g.serve service req).2 = [] := by
  have hasked : (Action.within .upload).endpoint? = some "upload" := rfl
  have haddress := Backend.endpoint?_of_baseUrl hbase (Action.isPrinted_endpoint hasked)
  rw [if_neg hlong] at haddress
  have hnone : Backend.endpoint? g.backend.base (Call.postFiles "upload" files).endpoint =
      .error Cause.endpointUnusable.fault := haddress
  rw [received_upload hsubject hread, Backend.received_ask_of_error hnone]

/-- The request that an upload gives rise to. -/
theorem serve_upload (hbase : o.baseUrl = .ok g.backend.base)
    (hhost : g.backend.base.isReadable = true)
    (hsubject : subject? req = some (.within .upload, storage)) {files : List FilePart}
    (hread : Multipart.read req.headers g.uploadLimit req.body = .ok files)
    (hbear : Backend.canBear (Session.token? req.jar storage) = true) (deliveries : List Delivery) :
    ∃ address rest, Backend.endpoint? g.backend.base "upload" = .ok address ∧
      (g.serve (.scripted deliveries) req).2 =
        g.backend.requestTo address (.postFiles "upload" files)
          (Session.token? req.jar storage) :: rest := by
  have hasked : (Action.within .upload).endpoint? = some "upload" := rfl
  obtain ⟨address, haddress, -, -, hhost⟩ :=
    Backend.exists_endpoint? hbase hhost (Action.isPrinted_endpoint hasked)
  obtain ⟨rest, hrest⟩ := Exchange.received_scripted deliveries
    (g.backend.requestTo address (.postFiles "upload" files) (Session.token? req.jar storage))
  have hknown : Backend.endpoint? g.backend.base (Call.postFiles "upload" files).endpoint =
      .ok address := haddress
  refine ⟨address, rest, haddress, ?_⟩
  rw [received_upload hsubject hread, Backend.settle_ask hknown hhost, if_pos hbear]
  exact hrest

/-- The body for the files that are found carries those that were meant if both are the same. -/
theorem carries_meant_iff {boundary : Bytes} {fields : List FormField} (hboundary : 0x0D ∉ boundary)
    (h : ∀ f ∈ fields, f.IsWritable)
    (hdata : ∀ f ∈ fields, ¬(crlf ++ delimiter boundary) <:+: f.data) :
    let body := write boundary (fields.filterMap FormField.found?)
    sections? boundary body = some ((fields.filterMap FormField.found?).map FilePart.toSection) ∧
      (Carries boundary body (fields.filterMap FormField.meant?) ↔
        fields.filterMap FormField.found? = fields.filterMap FormField.meant?) := by
  have hplain : (fields.filterMap FormField.meant?).map FilePart.plainSection =
      (fields.filterMap FormField.meant?).map FilePart.toSection := by
    refine List.map_congr_left fun file hfile => ?_
    obtain ⟨f, hf, hmeant⟩ := List.mem_filterMap.mp hfile
    exact (FormField.toSection_of_meant? (h f hf) hmeant).symm
  have hfound {file : FilePart} (hfile : file ∈ fields.filterMap FormField.found?) :
      '\r' ∉ file.name.toList ∧ ¬(crlf ++ delimiter boundary) <:+: file.data := by
    obtain ⟨f, hf, hfound⟩ := List.mem_filterMap.mp hfile
    obtain ⟨n, hn, rfl⟩ := Option.map_eq_some_iff.mp hfound
    exact ⟨FormField.notMem_foundName? (h f hf) hn, hdata f hf⟩
  have hsections := sections?_write hboundary (fun file hfile => (hfound hfile).1)
    fun file hfile => (hfound hfile).2
  refine ⟨hsections, ?_⟩
  rw [Carries, hsections, hplain, Option.some_inj, FilePart.toSection_injective.list_map.eq_iff]

/-- The first request for a form carries the files that are found, one section for each, and is
determined by them. These are the files of the form, in their order and with their contents, if and
only if all of them are found. Unless a name both misleads the search and gives it a value, files
can only be lost, and it is known which ones are. Nothing is sent if the host of the base URL has a
label that is too long for the endpoint to have an address. -/
theorem upload_forwards_files {boundary : Bytes} {fields : List FormField}
    (hbase : o.baseUrl = .ok g.backend.base)
    (hsubject : subject? req = some (.within .upload, storage))
    (hbear : Backend.canBear (Session.token? req.jar storage) = true)
    (hform : req.Submits boundary fields)
    (hlimit : exceeds g.uploadLimit (FormField.encode boundary fields).length = false)
    (hline : 0x0D ∉ g.backend.boundary)
    (hclear : ∀ f ∈ fields, ¬(crlf ++ delimiter g.backend.boundary) <:+: f.data)
    (deliveries : List Delivery) :
    if g.backend.base.isReadable then
      ∃ first rest body, (g.serve (.scripted deliveries) req).2 = first :: rest ∧
        first.contentType =
          some (Bytes.ofAscii "multipart/form-data; boundary=" ++ g.backend.boundary) ∧
        first.body = some body ∧
        body = write g.backend.boundary (fields.filterMap FormField.found?) ∧
        (fields.filterMap FormField.found? = [] → body = []) ∧
        sections? g.backend.boundary body =
          some ((fields.filterMap FormField.found?).map FilePart.toSection) ∧
        (Carries g.backend.boundary body (fields.filterMap FormField.meant?) ↔
          fields.filterMap FormField.found? = fields.filterMap FormField.meant?) ∧
        ((∀ f ∈ fields, f.IsTame) →
          (fields.filterMap FormField.found?).Sublist (fields.filterMap FormField.meant?) ∧
          (Carries g.backend.boundary body (fields.filterMap FormField.meant?) ↔
            ∀ f ∈ fields, f.IsFindable))
    else (g.serve (.scripted deliveries) req).2 = [] := by
  have hread := hform.read hlimit
  split
  case isFalse hlong => exact serve_upload_of_not_isReadable hbase hlong hsubject hread _
  case isTrue hhost =>
    obtain ⟨address, rest, -, hserved⟩ := serve_upload hbase hhost hsubject hread hbear deliveries
    obtain ⟨hsections, hiff⟩ := carries_meant_iff hline hform.writable hclear
    refine ⟨_, rest, _, hserved, rfl, rfl, rfl, fun hnone => ?_, hsections, hiff, fun htame => ?_⟩
    · rw [hnone]
      rfl
    · exact ⟨FormField.filterMap_found?_sublist hform.writable htame,
        hiff.trans (FormField.filterMap_found?_eq_iff hform.writable htame)⟩

/-- A form with a file and a comment is uploaded as the file alone. -/
theorem upload_forwards_files_comment :
    let o : Options := { gateway := "http://s/" }
    let g : Gateway :=
      ⟨⟨⟨"http", some { host := .domain "s" }, .segments [""], none, none⟩, Bytes.ofAscii "x"⟩,
        ⟨60, false⟩, 0⟩
    let fields : List FormField :=
      [⟨Bytes.ofAscii "files", some "a\\b", [0x0D, 0x0A]⟩, ⟨Bytes.ofAscii "comment", none, [0x2D]⟩]
    let req : Inbound :=
      { method := "POST"
        target := Bytes.ofAscii "/a/upload/"
        headers := [.ofText "content-type" "multipart/form-data; boundary=B"]
        body := ⟨[.data (FormField.encode (Bytes.ofAscii "B") fields)], []⟩ }
    o.baseUrl = .ok g.backend.base ∧ req.Submits (Bytes.ofAscii "B") fields ∧
      ∃ first rest body, (g.serve (.scripted []) req).2 = first :: rest ∧
        first.body = some body ∧ Carries (Bytes.ofAscii "x") body [⟨"a\\b", [0x0D, 0x0A]⟩] := by
  intro o g fields req
  have hbase : o.baseUrl = .ok g.backend.base := by decide +kernel
  have hsubject : subject? req = some (.within .upload, "a") := by decide +kernel
  have hbear : Backend.canBear (Session.token? req.jar "a") = true := by decide +kernel
  have hmediaType : (req.headers.first? "content-type").bind boundary? =
      some (Bytes.ofAscii "B") := by decide +kernel
  have hwritable : ∀ f ∈ fields, f.IsWritable := by
    refine List.forall_mem_cons.mpr ⟨⟨forall_mem_of_all (by decide), ?_⟩,
      List.forall_mem_singleton.mpr ⟨forall_mem_of_all (by decide), ?_⟩⟩
    · rintro n hn
      cases hn
      exact forall_mem_of_all (by decide)
    · rintro n hn
      cases hn
  have hform : req.Submits (Bytes.ofAscii "B") fields :=
    ⟨hmediaType, ⟨[_], rfl, List.flatten_singleton⟩, hwritable, by decide +kernel⟩
  have hplain : ∀ f ∈ fields, ¬Misleads f.name := by decide +kernel
  have hfindable : ∀ f ∈ fields, f.IsFindable := by decide +kernel
  have hhost : g.backend.base.isReadable = true := by decide +kernel
  have hsent := upload_forwards_files hbase hsubject hbear hform (by decide +kernel)
    (by decide +kernel) (by decide +kernel) []
  rw [if_pos hhost] at hsent
  obtain ⟨first, rest, body, hserved, -, hbody, -, -, -, -, hfound⟩ := hsent
  have hcarries := (hfound fun f hf hname => absurd hname (hplain f hf)).2.mpr hfindable
  exact ⟨hbase, hform, first, rest, body, hserved, hbody, hcarries⟩

end Gateway

end StorageGateway
