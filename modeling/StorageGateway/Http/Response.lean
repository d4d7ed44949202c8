import StorageGateway.Fault
import StorageGateway.Html
import StorageGateway.Http.Header

/-!
# Responses

What the browser gets: a status, header fields and a body. A body made by the gateway has a known
size; one that is passed on from the storage service may lack it and may break off. The length of
a body of known size is announced when the response is finished, and a response to a `HEAD`
request keeps its fields and loses its body.

## Main definitions

* `Body`, `Response`.
* `Response.empty`, `Response.page`, `Response.ofFault`, `Response.found?`: the gateway's own
  responses.
* `Response.finish`: the last step before a response is sent.
-/

namespace StorageGateway

/-- The body of a response. -/
inductive Body where
  /-- Bytes whose number is known beforehand. -/
  | sized (bs : Bytes)
  /-- Bytes passed on as they arrive; `whole` tells whether the last one arrives. -/
  | streamed (bs : Bytes) (whole : Bool)
  deriving DecidableEq, Repr

/-- A response to the browser. -/
structure Response where
  status : Nat
  headers : Headers
  body : Body
  deriving DecidableEq, Repr

namespace Response

/-- A response without content. -/
def empty (status : Nat) : Response := ⟨status, [], .sized []⟩

/-- A text with its media type. -/
def ofText (status : Nat) (mediaType text : String) : Response :=
  ⟨status, [.ofText "content-type" mediaType], .sized (Utf8.ofString text)⟩

/-- A page. -/
def page (p : Html.Page) : Response := ofText 200 "text/html; charset=utf-8" (Html.render p)

/-- The report of a fault. -/
def ofFault (f : Fault) : Response := ofText f.kind.status "application/json" f.json

/-- A redirect to a temporary place. -/
def found? (location : String) : Except Fault Response :=
  let value := Utf8.ofString location
  if Header.isWritable value then .ok ⟨302, [⟨"location", value⟩], .sized []⟩
  else .error Cause.redirectUnwritable.fault

/-- The response that an outcome stands for. -/
def ofOutcome : Except Fault Response → Response
  | .ok r => r
  | .error f => ofFault f

/-- Replaces a field or adds it. -/
def setHeader (r : Response) (h : Header) : Response :=
  { r with headers := r.headers.filter (·.name != h.name) ++ [h] }

/-- Adds fields at the end. -/
def addHeaders (r : Response) (hs : Headers) : Response := { r with headers := r.headers ++ hs }

/-- Announces the length of a body of known size, unless a length is announced already. -/
def announceLength (r : Response) : Response :=
  match r.body with
  | .sized bs =>
    if (r.headers.first? "content-length").isSome then r
    else r.addHeaders [.ofText "content-length" (toString bs.length)]
  | .streamed .. => r

/-- The last step before a response is sent; `headOnly` when only the fields were asked for. -/
def finish (headOnly : Bool) (r : Response) : Response :=
  let r := r.announceLength
  if headOnly then { r with body := .sized [] } else r

/-- The fields that keep a response from being framed or its type from being guessed. -/
def harden (r : Response) : Response :=
  (r.setHeader (.ofText "x-frame-options" "DENY")).setHeader
    (.ofText "x-content-type-options" "nosniff")

end Response

end StorageGateway
