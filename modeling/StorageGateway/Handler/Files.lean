import StorageGateway.Handler.Plan
import StorageGateway.Http.Disposition
import StorageGateway.Http.Form
import StorageGateway.Listing
import StorageGateway.Scope

/-!
# The files of a storage

Each handler turns a request about a storage into one call. Downloads are passed on as they
arrive, a listing becomes a page, and uploads, removals and shared texts are forwarded with the
parameters of the scope.

## Main definitions

* `Files.download`, `Files.index`: passing on a file.
* `Files.view`: the directory page.
* `Files.upload`, `Files.remove`, `Files.shareText`: changing a storage.
-/

namespace StorageGateway.Files

/-- The title of the directory page. -/
def title : String := "Duplo"

/-- A reply passed on to the browser under the given headers. Its media type is kept unless one is
given, and so is the length that it announces. -/
def passOn (headers : Headers) (r : Reply) : Response :=
  let mediaType :=
    if (headers.first? "content-type").isSome then []
    else ((r.headers.first? "content-type").map (Header.mk "content-type")).toList
  let length := (r.length.map fun n => Header.ofText "content-length" (toString n)).toList
  ⟨200, headers ++ mediaType ++ length, .streamed r.body r.isWhole⟩

/-- A file, to be saved under its name. -/
def download (s : Scope) : Plan :=
  .forward s.storage (.get "file" s.values) fun r =>
    (Disposition.header? s.fileName).map fun value =>
      passOn [⟨"content-disposition", value⟩] r

/-- The page that a storage holds for itself. -/
def index (s : Scope) : Plan :=
  .forward s.storage (.get "index.html" s.values) fun r =>
    .ok (passOn [.ofText "content-type" "text/html"] r)

/-- The directory page of a storage. -/
def directory (s : Scope) (files : List FileRecord) : Page.Directory :=
  { title
    storage := s.storage
    permanent := s.isPermanent
    linksPermanent := !s.isPermanent && !s.isPublic
    files }

/-- The page that a listing is shown on; a listing that breaks off is unreadable. -/
def showListing (s : Scope) (r : Reply) : Except Fault Response :=
  match if r.isWhole then Listing.parse? r.body else none with
  | some files => .ok (.page (Page.directory (directory s files)))
  | none => .error Cause.listingUnreadable.fault

/-- The files of a storage as a page. -/
def view (s : Scope) : Plan := .forward s.storage (.get "list" s.values) (showListing s)

/-- The answer when an order was carried out. -/
def done (_ : Reply) : Except Fault Response := .ok (.empty 200)

/-- Uploads the files of a multipart body. -/
def upload (limit : Nat) (s : Scope) (req : Inbound) : Plan :=
  match Multipart.read req.headers limit req.body with
  | .error f => .refuse f
  | .ok parts => .forward s.storage (.postFiles "upload" parts) done

/-- Removes the file that a form names. -/
def remove (s : Scope) (req : Inbound) : Plan :=
  match Form.read req.headers req.body.chunks ["fileName"] with
  | .error r => .refuse r.fault
  | .ok fields =>
    let name := fields.headD ""
    if name.isEmpty then .refuse Cause.fileNameMissing.fault
    else .forward s.storage (.postForm "remove" (s.withFile name).values) done

/-- Saves the text of a form as a file. -/
def shareText (s : Scope) (req : Inbound) : Plan :=
  match Form.read req.headers req.body.chunks ["title", "body"] with
  | .error r => .refuse r.fault
  | .ok fields =>
    let title := fields.headD ""
    let body := (fields.drop 1).headD ""
    if title.isEmpty || body.isEmpty then .refuse (Cause.shareIncomplete title body).fault
    else
      .forward s.storage
        (.postForm "shareText" (s.values ++ [("title", title), ("body", body)])) done

end StorageGateway.Files
