import StorageGateway.Multipart.Writer
import StorageGateway.Session
import StorageGateway.Text.Base64
import StorageGateway.Url.Parser

/-!
# Calls of the storage service

The storage service is addressed by a base URL, below which each operation has its own path. A
call names the operation and its parameters; the request that carries it is determined by the
base URL, the call and the token of the storage that it is about. A user name in the base URL is
sent as an authorization of its own, in front of the token.

## Main definitions

* `Call`, `Payload`: what is asked.
* `Backend`, `Backend.endpoint?`: where it is asked.
* `Backend.request?`: the request that carries a call.
-/

namespace StorageGateway

/-- What is sent along with a call. -/
inductive Payload where
  | nothing
  | form (values : List (String × String))
  | files (parts : List FilePart)
  deriving DecidableEq, Repr

/-- What the storage service is asked. -/
structure Call where
  method : String
  endpoint : String
  query : List (String × String) := []
  payload : Payload := .nothing
  deriving DecidableEq, Repr

namespace Call

/-- A question whose parameters stand in the query. -/
def get (endpoint : String) (values : List (String × String)) : Call :=
  { method := "GET", endpoint, query := values }

/-- An order whose parameters are sent as a form. -/
def postForm (endpoint : String) (values : List (String × String)) : Call :=
  { method := "POST", endpoint, payload := .form values }

/-- An order that carries files. -/
def postFiles (endpoint : String) (parts : List FilePart) : Call :=
  { method := "POST", endpoint, payload := .files parts }

end Call

/-- A request to the storage service. -/
structure Request where
  method : String
  url : Url
  /-- The values of the `authorization` fields in order. -/
  authorization : List Bytes := []
  /-- The media type of the body. -/
  contentType : Option Bytes := none
  body : Option Bytes := none
  /-- Whether the body can be sent a second time. -/
  isRepeatable : Bool := true
  deriving DecidableEq, Repr

/-- Where the storage service is found. -/
structure Backend where
  base : Url
  /-- The text that separates the files of an upload. -/
  boundary : Bytes
  deriving DecidableEq, Repr

namespace Backend

/-- A text without the slashes at its end. -/
def trimSlashes (bs : Bytes) : Bytes := (bs.reverse.dropWhile (· == 0x2F)).reverse

/-- The text of the address of an endpoint. -/
def endpointText (base : Url) (endpoint : String) : Bytes :=
  trimSlashes (Utf8.ofString base.render) ++ 0x2F :: Utf8.ofString endpoint ++ [0x2F]

/-- The address of an endpoint. -/
def endpoint? (base : Url) (endpoint : String) : Except Fault Url :=
  match Url.parse (endpointText base endpoint) with
  | .ok url => .ok url
  | .error _ => .error Cause.endpointUnusable.fault

end Backend

namespace Url

/-- A URL with named values at the end of its query. -/
def addQuery (u : Url) (values : List (String × String)) : Url :=
  if values.isEmpty then u
  else
    let added := FormData.encode values
    let query :=
      match u.query with
      | none | some "" => added
      | some query => query ++ "&" ++ added
    { u with query := some query }

/-- The user name and password of a URL as text. They count only when the name is UTF-8; a
password that is not is left out, and without either there are none. -/
def user? (u : Url) : Option (String × Option String) :=
  u.authority.bind fun a =>
    (Percent.decodeString? a.username).bind fun name =>
      let password := a.password.bind Percent.decodeString?
      if name.isEmpty ∧ password.isNone then none else some (name, password)

/-- A URL without user name and password. -/
def withoutUser (u : Url) : Url :=
  { u with authority := u.authority.map fun a => { a with username := "", password := none } }

end Url

/-- The authorization by a user name and a password. -/
def basicAuthorization (user : String × Option String) : Bytes :=
  Bytes.ofAscii "Basic " ++
    Bytes.ofAscii (String.ofList (Base64.encode (Utf8.ofString (user.1 ++ ":" ++ user.2.getD ""))))

/-- The authorization by a token. -/
def bearerAuthorization (token : String) : Bytes := Bytes.ofAscii "Bearer " ++ Utf8.ofString token

/-- The request that carries a payload to an address. -/
def Payload.request (boundary : Bytes) (method : String) (url : Url) : Payload → Request
  | .nothing => { method, url }
  | .form values =>
    { method, url
      contentType := some (Bytes.ofAscii FormData.mediaType)
      body := some (Bytes.ofAscii (FormData.encode values)) }
  | .files parts =>
    { method, url
      contentType := some (Bytes.ofAscii "multipart/form-data; boundary=" ++ boundary)
      body := some (Multipart.write boundary parts)
      isRepeatable := parts.isEmpty }

namespace Backend

/-- The request that carries a call about a storage. It is refused when the address has no host or
the token cannot be written into a header. -/
def request? (b : Backend) (jar : Cookie.Jar) (storage : String) (call : Call) :
    Except Fault Request := do
  let address ← endpoint? b.base call.endpoint
  let token := (Session.token? jar storage).map bearerAuthorization
  if !address.hasHost || !(token.map Header.isWritable).getD true then
    throw Cause.requestUnwritable.fault
  let user := address.user?
  let url := (if user.isSome then address.withoutUser else address).addQuery call.query
  let request := call.payload.request b.boundary call.method url
  return { request with
    authorization := (user.map basicAuthorization).toList ++ token.toList }

end Backend

end StorageGateway
