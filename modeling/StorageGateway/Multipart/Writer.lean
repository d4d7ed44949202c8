import StorageGateway.Multipart.Reader

/-!
# Writing uploads

Files are passed on as parts whose field name and file name are both the name of the file. The
file name is written with a backslash before each backslash, quote and line break character; the
field name is written as it is.

## Main definitions

* `Multipart.escapeName`: a file name inside quotes.
* `Multipart.write`: a list of files as a multipart body.
-/

namespace StorageGateway.Multipart

/-- A file name inside quotes. -/
def escapeName (name : String) : String :=
  String.ofList <| name.toList.flatMap fun c =>
    if c = '\\' ∨ c = '"' ∨ c = '\r' ∨ c = '\n' then ['\\', c] else [c]

/-- The header line of a file's part. -/
def disposition (name : String) : String :=
  "Content-Disposition: form-data; name=\"" ++ name ++ "\"; filename=\"" ++ escapeName name ++ "\""

/-- One file between delimiter lines. -/
def writePart (boundary : Bytes) (file : FilePart) : Bytes :=
  delimiter boundary ++ crlf ++ Utf8.ofString (disposition file.name) ++ crlf ++ crlf ++
    file.data ++ crlf

/-- The files as a multipart body, which is empty when there is none. -/
def write (boundary : Bytes) (files : List FilePart) : Bytes :=
  if files.isEmpty then []
  else files.flatMap (writePart boundary) ++ delimiter boundary ++ dashes ++ crlf

end StorageGateway.Multipart
