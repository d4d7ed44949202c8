import StorageGateway.Json.Value
import StorageGateway.Json.Quoted

/-!
# Faults

Whatever goes wrong is a fault: a kind, which decides the status of the answer, and a description.
The storage service reports its own faults in the same form, a JSON object with a code and a
description, and they are passed on unchanged. What can go wrong in the gateway itself is listed
by `Cause`, and `Cause.fault` fixes the kind and the words of each.

## Main definitions

* `Fault`, `FaultKind`: faults and their kinds, codes and statuses.
* `Fault.json`, `Fault.parse?`: the JSON form of a fault.
* `Cause`, `Cause.fault`: the gateway's own faults.
-/

namespace StorageGateway

/-- The kinds of faults. -/
inductive FaultKind where
  | internal
  | invalidParams
  | unauthorized
  | notFound
  | alreadyExists
  | mismatch
  deriving DecidableEq, Repr

namespace FaultKind

/-- All kinds. -/
def all : List FaultKind :=
  [.internal, .invalidParams, .unauthorized, .notFound, .alreadyExists, .mismatch]

/-- The code of a kind in the JSON form. -/
def code : FaultKind → String
  | .internal => "internal_error"
  | .invalidParams => "invalid_params"
  | .unauthorized => "unauthorized"
  | .notFound => "not_exist"
  | .alreadyExists => "already_exist"
  | .mismatch => "not_match"

/-- The kind with a given code. -/
def ofCode? (code : String) : Option FaultKind := all.find? fun k => k.code == code

/-- The status of an answer that reports a fault of this kind. -/
def status : FaultKind → Nat
  | .internal => 500
  | .invalidParams => 400
  | .unauthorized => 401
  | .notFound => 404
  | .alreadyExists => 409
  | .mismatch => 403

/-- The words before the description when a fault is shown to a person. -/
def label : FaultKind → String
  | .internal => "internal error"
  | .invalidParams => "invalid params"
  | .unauthorized => "not authorized"
  | .notFound => "not found"
  | .alreadyExists => "already exists"
  | .mismatch => "mismatch"

end FaultKind

/-- Something that went wrong. -/
structure Fault where
  kind : FaultKind
  description : String
  deriving DecidableEq, Repr

namespace Fault

/-- The fault as it is shown to a person. -/
def display (f : Fault) : String := f.kind.label ++ ": " ++ f.description

/-- The JSON form of a fault. -/
def json (f : Fault) : String :=
  "\x7b\"code\":" ++ Json.quote f.kind.code ++ ",\"description\":" ++ Json.quote f.description ++
    "\x7d"

/-- The kind that a JSON value names: its code, or an object with the code as its only name and
`null` as value. -/
def kind? : Json.Value → Option FaultKind
  | .string l => l.text?.bind FaultKind.ofCode?
  | .object [(l, .null)] => l.text?.bind FaultKind.ofCode?
  | _ => none

/-- The fault that a JSON value describes. -/
def ofValue? (v : Json.Value) : Option Fault :=
  match v.fields? ["code", "description"] with
  | some [code, description] =>
    match kind? code, description.text? with
    | some kind, some description => some ⟨kind, description⟩
    | _, _ => none
  | _ => none

/-- The fault that a JSON text describes. -/
def parse? (bs : Bytes) : Option Fault := (Json.parse? bs).bind ofValue?

end Fault

/-- Why the gateway itself refuses a request or cannot answer it. -/
inductive Cause where
  /-- A part of the path is not UTF-8 under its percent encoding. -/
  | captureNotText (name : String)
  /-- The form of a request was not read; `reason` says why. -/
  | formRefused (reason : String)
  /-- The form to remove a file names none. -/
  | fileNameMissing
  /-- The form to share a text lacks the title or the text. -/
  | shareIncomplete (title body : String)
  /-- The upload is larger than allowed. -/
  | uploadTooLarge
  /-- The request is no multipart request. -/
  | notMultipart
  /-- The upload breaks off or is malformed between its files. -/
  | partUnreadable
  /-- The upload breaks off inside a file. -/
  | dataUnreadable
  /-- No route leads to the path. -/
  | pageNotFound
  /-- There is no static resource of that path. -/
  | resourceNotFound (path : String)
  /-- The address of a redirect is no header value. -/
  | redirectUnwritable
  /-- The suggested file name is no header value. -/
  | dispositionUnwritable
  /-- The address of an endpoint is no URL. -/
  | endpointUnusable
  /-- The call cannot be written down. -/
  | requestUnwritable
  /-- The call got no reply. -/
  | noReply
  /-- The body of a fault report breaks off. -/
  | reportUnreadable
  /-- The body of a fault report is no JSON form of a fault. -/
  | reportMalformed
  /-- The status of the reply has no meaning here. -/
  | unexpectedStatus
  /-- The body that holds a new token breaks off. -/
  | tokenUnreadable
  /-- The listing breaks off or is no list of file records. -/
  | listingUnreadable
  /-- A handler failed in a way that no rule foresees. -/
  | handlerFailed
  deriving DecidableEq, Repr

/-- The fault that reports a cause. -/
def Cause.fault : Cause → Fault
  | .captureNotText name =>
    ⟨.invalidParams, "request parameters: Invalid UTF-8 in \x60" ++ name ++ "\x60"⟩
  | .formRefused reason => ⟨.invalidParams, "request parameters: " ++ reason⟩
  | .fileNameMissing => ⟨.invalidParams, "file name was not set"⟩
  | .shareIncomplete title body =>
    ⟨.invalidParams,
      "title or body was not set; title = " ++ title ++ " body = " ++ body⟩
  | .uploadTooLarge => ⟨.invalidParams, "upload size exceeds limit"⟩
  | .notMultipart => ⟨.internal, "multipart reader"⟩
  | .partUnreadable => ⟨.internal, "next part"⟩
  | .dataUnreadable => ⟨.internal, "copy data"⟩
  | .pageNotFound => ⟨.notFound, "page not found"⟩
  | .resourceNotFound path => ⟨.notFound, "resource " ++ path⟩
  | .redirectUnwritable => ⟨.internal, "make redirect"⟩
  | .dispositionUnwritable => ⟨.internal, "make disposition"⟩
  | .endpointUnusable => ⟨.internal, "make url"⟩
  | .requestUnwritable => ⟨.internal, "make request"⟩
  | .noReply => ⟨.internal, "do request"⟩
  | .reportUnreadable => ⟨.internal, "read error body"⟩
  | .reportMalformed => ⟨.internal, "json decode"⟩
  | .unexpectedStatus => ⟨.internal, "invalid status code"⟩
  | .tokenUnreadable => ⟨.internal, "invalid session token"⟩
  | .listingUnreadable => ⟨.internal, "files json decode error"⟩
  | .handlerFailed => ⟨.internal, "recover from panic"⟩

end StorageGateway
