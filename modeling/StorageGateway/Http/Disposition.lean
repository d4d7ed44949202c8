import StorageGateway.Fault
import StorageGateway.Http.Header
import StorageGateway.Text.Percent

/-!
# Suggested file names

A download suggests the name under which to save it. A name of printing ASCII characters and
spaces, without quotes and backslashes, stands in quotes as it is. For any other name the quoted
form holds an underscore in place of each other character, and the name itself follows in its
percent-encoded UTF-8 form.

## Main definitions

* `Disposition.attachment`: the text that suggests a name.
* `Disposition.header?`: the text as a header value.
-/

namespace StorageGateway.Disposition

/-- Characters that may stand inside the quotes. -/
def isPlain (c : Char) : Bool :=
  0x20 ≤ c.toNat && c.toNat ≤ 0x7E && c != '"' && c != '\\'

/-- A name with an underscore in place of each character that may not stand inside quotes. -/
def fallback (name : String) : String :=
  String.ofList (name.toList.map fun c => if isPlain c then c else '_')

/-- The text that suggests a name. -/
def attachment (name : String) : String :=
  if name.toList.all isPlain then "attachment; filename=\"" ++ name ++ "\""
  else
    "attachment; filename=\"" ++ fallback name ++ "\"; filename*=UTF-8''" ++
      Percent.encodeComponent name

/-- The header value that suggests a name. -/
def header? (name : String) : Except Fault Bytes :=
  let value := Utf8.ofString (attachment name)
  if Header.isWritable value then .ok value else .error Cause.dispositionUnwritable.fault

end StorageGateway.Disposition
