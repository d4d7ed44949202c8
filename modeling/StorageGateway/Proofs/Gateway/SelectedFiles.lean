import StorageGateway.Proofs.Gateway.Upload
import StorageGateway.Proofs.Gateway.UploadLimit
import StorageGateway.Proofs.Multipart.Selection
import StorageGateway.Proofs.Session.Issue

/-!
# The files of an upload that succeeds

An upload that is answered with success has been read, and its files were sent to the storage
service. These are the files of the sections that the body consists of. A section whose name is not
found, or is not UTF-8, has no file: it is passed over like a field without a file, and the answer
does not tell.

## Main results

* `Gateway.exists_files_of_success`: what an upload has sent when it succeeds.
* `Gateway.sent_files_are_selected`: which files of the body these are.
-/

namespace StorageGateway

open Multipart

theorem FaultKind.status_ne_ok (k : FaultKind) : k.status ≠ 200 := by cases k <;> decide

namespace Gateway

variable {g : Gateway} {req : Inbound} {storage : String} {service : Service}

/-- An upload that succeeds was read, and its files were sent. -/
theorem exists_files_of_success (h : subject? req = some (.within .upload, storage))
    (hstatus : (g.serve service req).1.status = 200) :
    ∃ files first rest, Multipart.read req.headers g.uploadLimit req.body = .ok files ∧
      (g.serve service req).2 = first :: rest ∧
      first.body = some (write g.backend.boundary files) := by
  cases hread : Multipart.read req.headers g.uploadLimit req.body with
  | error f =>
    rw [serve_unread_upload h hread] at hstatus
    exact absurd hstatus f.kind.status_ne_ok
  | ok files =>
    have hplan := plan?_upload (g := g) h hread
    rw [serve_of_plan? hplan, status_respond, Errand.plan, Plan.run, Backend.request?_eq] at hstatus
    rw [serve_of_plan? hplan, Errand.plan, Plan.run, Backend.request?_eq]
    cases hrequest : g.backend.requestWith? (Session.token? req.jar storage)
        (.postFiles "upload" files) with
    | error f =>
      simp only [hrequest] at hstatus
      exact absurd hstatus f.kind.status_ne_ok
    | ok request =>
      simp only [hrequest] at hstatus ⊢
      cases hsettle : Exchange.settle (Exchange.send service request).reply with
      | error f =>
        simp only [hsettle] at hstatus
        exact absurd hstatus f.kind.status_ne_ok
      | ok r =>
        obtain ⟨address, -, rfl⟩ := Backend.exists_address_of_requestWith? hrequest
        cases service with
        | unreachable => cases hsettle
        | scripted deliveries =>
          obtain ⟨rest, hreceived⟩ := Exchange.received_scripted deliveries
            (g.backend.requestTo address (.postFiles "upload" files)
              (Session.token? req.jar storage))
          exact ⟨files, _, rest, rfl, hreceived, rfl⟩

/-- An upload that succeeds has sent the files of the sections that its body consists of, in this
one way. A section has a file when the first occurrence of the word that counts gives a name to it.
The parameter of a section is spelt out in its `Content-Disposition` value; where it is found there
at that occurrence, and without backslashes behind it, the section has a file just when the value
of the parameter is UTF-8, and by this name unless a tab follows. All other sections are passed
over. -/
theorem sent_files_are_selected (h : subject? req = some (.within .upload, storage))
    (hstatus : (g.serve service req).1.status = 200) :
    ∃ boundary sections first rest,
      (req.headers.first? "content-type").bind boundary? = some boundary ∧
      (∀ others, Consists boundary (Chunk.allBytes req.body.chunks) others ↔ others = sections) ∧
      (g.serve service req).2 = first :: rest ∧
      first.body = some (write g.backend.boundary (sections.filterMap Section.file?)) ∧
      ∀ s ∈ sections, (s.disposition? = none → s.file? = none) ∧
        ∀ d, s.disposition? = some d →
          (∀ file, s.file? = some file ↔ Names d file.name ∧ file.data = s.content) ∧
          ∀ value, value ≠ [] →
            (ContentDisposition.read? d).bind (·.parameter? word) = some value →
            ∃ before spelling after,
              ContentDisposition.IsSpelt d word value before spelling after ∧
              (IsFirst d before after → 0x5C ∉ after →
                (s.file? = none ↔ Utf8.toString? value = none) ∧
                (0x09 ∉ after → ∀ name, Utf8.toString? value = some name →
                  s.file? = some ⟨name, s.content⟩)) := by
  obtain ⟨files, first, rest, hread, hserved, hbody⟩ := exists_files_of_success h hstatus
  obtain ⟨boundary, sections, hnamed, hconsists, -, rfl⟩ := exists_sections_of_read hread
  refine ⟨boundary, sections, first, rest, hnamed, fun others => ⟨fun hothers => ?_, ?_⟩, hserved,
    hbody, fun s _ => ⟨fun hnone => ?_, fun d hd => ⟨fun file => ?_, fun value hne hvalue => ?_⟩⟩⟩
  · exact hothers.unique hconsists
  · rintro rfl
    exact hconsists
  · rw [Section.file?, hnone]
    rfl
  · exact Section.file?_eq_some_iff_names hd
  · obtain ⟨parameters, hparameters, hvalue⟩ := Option.bind_eq_some_iff.mp hvalue
    obtain ⟨before, spelling, after, hspelt⟩ :=
      ContentDisposition.exists_isSpelt hparameters hvalue
    exact ⟨before, spelling, after, hspelt, Section.file?_of_isSpelt hd hne hspelt⟩

/-- A form with two files is uploaded without the one whose field has a misleading name. -/
theorem sent_files_are_selected_lost :
    let g : Gateway :=
      ⟨⟨⟨"http", some { host := .domain "s" }, .segments [""], none, none⟩, Bytes.ofAscii "x"⟩,
        ⟨60, false⟩, 0⟩
    let lost := Bytes.ofAscii "form-data; name=\"my filename\"; filename=\"a.txt\""
    let found := Bytes.ofAscii "form-data; name=\"file\"; filename=\"b.txt\""
    let line := Bytes.ofAscii "Content-Disposition: "
    let sections : List Section := [⟨line ++ lost, [0x79]⟩, ⟨line ++ found, [0x7A]⟩]
    let req : Inbound :=
      { method := "POST"
        target := Bytes.ofAscii "/a/upload/"
        headers := [.ofText "content-type" "multipart/form-data; boundary=B"]
        body := ⟨[.data (assemble (Bytes.ofAscii "B") sections)], []⟩ }
    let service : Service := .scripted [.reply { status := 200 }]
    subject? req = some (.within .upload, "a") ∧ (g.serve service req).1.status = 200 ∧
      (ContentDisposition.read? lost).bind (·.parameter? word) = some (Bytes.ofAscii "a.txt") ∧
      ∃ first rest, (g.serve service req).2 = first :: rest ∧
        first.body = some (write (Bytes.ofAscii "x") [⟨"b.txt", [0x7A]⟩]) := by
  intro g lost found line sections req service
  have hsubject : subject? req = some (.within .upload, "a") := by decide +kernel
  have hstatus : (g.serve service req).1.status = 200 := by decide +kernel
  have hclear : ∀ s ∈ sections, s.IsClear (Bytes.ofAscii "B") :=
    List.forall_mem_cons.mpr ⟨⟨fun rest => cut?_line (by decide +kernel) rest, by decide +kernel⟩,
      List.forall_mem_singleton.mpr
        ⟨fun rest => cut?_line (by decide +kernel) rest, by decide +kernel⟩⟩
  have hconsists : Consists (Bytes.ofAscii "B") (Chunk.allBytes req.body.chunks) sections := by
    have hbytes : Chunk.allBytes req.body.chunks = assemble (Bytes.ofAscii "B") sections :=
      List.append_nil _
    rw [hbytes]
    exact consists_assemble (by decide) hclear
  obtain ⟨boundary, others, first, rest, hnamed, hunique, hserved, hbody, -⟩ :=
    sent_files_are_selected hsubject hstatus
  have hboundary : (req.headers.first? "content-type").bind boundary? =
      some (Bytes.ofAscii "B") := by decide +kernel
  cases hboundary.symm.trans hnamed
  obtain rfl := (hunique sections).mp hconsists
  refine ⟨hsubject, hstatus, by decide +kernel, first, rest, hserved, ?_⟩
  rw [hbody]
  decide +kernel

end Gateway

end StorageGateway
