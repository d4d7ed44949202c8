import StorageGateway.Fault
import StorageGateway.Http.Chunk
import StorageGateway.Http.Header
import StorageGateway.Text.FormData

/-!
# Forms of a request

A form is sent as the body of a request and has to announce its format. The body arrives in pieces
and is read up to a fixed size. Fields that the reader does not ask for are skipped; a field that
it asks for may occur once, and counts as empty when it is missing.

## Main definitions

* `Form.Refusal`: why a form is not read.
* `Form.collect`: a body that arrives in pieces.
* `Form.read`: the fields of a form.
-/

namespace StorageGateway.Form

/-- Why a form is not read. -/
inductive Refusal where
  | otherFormat
  | tooLong
  | streamBroken
  | repeatedField (name : String)
  deriving DecidableEq, Repr

/-- The words for a refusal. -/
def Refusal.message : Refusal → String
  | .otherFormat => "Form requests must have \x60Content-Type: " ++ FormData.mediaType ++ "\x60"
  | .tooLong => "Failed to buffer the request body: length limit exceeded"
  | .streamBroken => "Failed to buffer the request body: stream broken"
  | .repeatedField name =>
    "Failed to deserialize form body: duplicate field \x60" ++ name ++ "\x60"

/-- The largest size of a form. -/
def maxSize : Nat := 2097152

/-- The bytes of a body that arrives in pieces; `size` bytes have arrived in the pieces `seen`,
last one first. -/
def collectFrom (limit size : Nat) (seen : List Bytes) : List Chunk → Except Refusal Bytes
  | [] => .ok seen.reverse.flatten
  | .broken :: _ => .error .streamBroken
  | .data bs :: rest =>
    let size := size + bs.length
    if limit < size then .error .tooLong else collectFrom limit size (bs :: seen) rest

/-- The bytes of a body of at most `limit` bytes. -/
def collect (limit : Nat) (body : List Chunk) : Except Refusal Bytes := collectFrom limit 0 [] body

/-- Whether the headers announce a form. -/
def isAnnounced (headers : Headers) : Bool :=
  match headers.first? "content-type" with
  | none => false
  | some value =>
    (Header.text? value).isSome && (Bytes.ofAscii FormData.mediaType).isPrefixOf value

/-- The first name that occurs a second time. -/
def firstRepeated? (seen : List String) : List String → Option String
  | [] => none
  | name :: rest => if seen.contains name then some name else firstRepeated? (name :: seen) rest

/-- The values of the named fields, each of which may occur once. -/
def pick (names : List String) (fields : List (String × String)) :
    Except Refusal (List String) :=
  let known := fields.filter fun f => names.contains f.1
  match firstRepeated? [] (known.map (·.1)) with
  | some name => .error (.repeatedField name)
  | none => .ok (names.map fun name => ((known.find? (·.1 == name)).map (·.2)).getD "")

/-- The values of the named fields of a form. -/
def read (headers : Headers) (body : List Chunk) (names : List String) :
    Except Refusal (List String) := do
  unless isAnnounced headers do throw .otherFormat
  let bs ← collect maxSize body
  pick names (FormData.decode bs)

/-- The fault that reports a refusal. -/
def Refusal.fault (r : Refusal) : Fault := (Cause.formRefused r.message).fault

end StorageGateway.Form
