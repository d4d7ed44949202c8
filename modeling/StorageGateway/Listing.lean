import StorageGateway.Json.Value
import StorageGateway.Page.Directory

/-!
# Listings

The storage service describes the files of a storage by a JSON list of records. A listing is read
as a whole: one item that is no record makes all of it unreadable, so that a page never shows a
part of a storage as if it were everything.

## Main definitions

* `FileRecord.ofValue?`: one record.
* `Listing.parse?`: a whole listing.
-/

namespace StorageGateway

/-- The names of a record's fields. -/
def FileRecord.fieldNames : List String := ["name", "size", "mod_time"]

/-- The record that a JSON value describes. -/
def FileRecord.ofValue? (v : Json.Value) : Option FileRecord :=
  match v.fields? fieldNames with
  | some [name, size, modTime] =>
    match name.text?, size.int64?, modTime.int64? with
    | some name, some size, some modTime => some ⟨name, size, modTime⟩
    | _, _, _ => none
  | _ => none

namespace Listing

/-- The records that a JSON value lists. -/
def ofValue? : Json.Value → Option (List FileRecord)
  | .array items => items.mapM FileRecord.ofValue?
  | _ => none

/-- The records that a JSON text lists. -/
def parse? (bs : Bytes) : Option (List FileRecord) := (Json.parse? bs).bind ofValue?

end Listing

end StorageGateway
