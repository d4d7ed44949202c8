import StorageGateway.Options.Basic
import StorageGateway.Text.Pem
import StorageGateway.Text.Quoted
import StorageGateway.Url.Parser

/-!
# Checking options

Options can be read and still make no sense: the base URL has to be a URL of the web, a session
has to last, and a certificate needs its key. The first thing that is wrong is reported. A server
that has both certificate and key starts only with files that can be read and used.

## Main definitions

* `Setup.Refusal`: what makes options unusable.
* `Options.baseUrl`: the base URL of usable options.
* `Setup.loadKeys`: whether the server speaks over a secure connection.
-/

namespace StorageGateway

namespace Setup

/-- What makes options unusable. -/
inductive Refusal where
  | badUrl (text : String) (reason : Url.Refusal)
  | otherScheme (text : String)
  | noLifetime
  | halfKeyPair
  deriving DecidableEq, Repr

/-- The words for a refusal. -/
def Refusal.message : Refusal → String
  | .badUrl text reason =>
    "invalid gateway host " ++ Quoted.quote text ++ ": " ++ reason.message
  | .otherScheme text => "gateway host must be an http(s) url: " ++ text
  | .noLifetime => "invalid session expire period"
  | .halfKeyPair => "tls cert and key must be set together"

/-- A file that the options name: its content, unless it is missing. -/
inductive File where
  | missing
  | content (bs : Bytes)
  deriving DecidableEq, Repr

/-- Why the files of a certificate and its key are of no use. -/
inductive KeyFault where
  | fileMissing
  /-- The certificate's file does not have the form of such files. -/
  | malformed
  /-- The contents are no certificate and its key. -/
  | unusable
  deriving DecidableEq, Repr

/-- Whether the server speaks over a secure connection, for which it needs both files. `isUsable`
tells whether two contents are a certificate and its key. -/
def loadKeys (isUsable : Bytes → Bytes → Bool) (certificate privateKey : Option File) :
    Except KeyFault Bool :=
  match certificate, privateKey with
  | some (.content c), some (.content k) =>
    if !Pem.isWellFormed c then .error .malformed
    else if isUsable c k then .ok true
    else .error .unusable
  | some _, some _ => .error .fileMissing
  | _, _ => .ok false

end Setup

/-- The base URL of usable options. -/
def Options.baseUrl (o : Options) : Except Setup.Refusal Url :=
  match Url.parse (Utf8.ofString o.gateway) with
  | .error reason => .error (.badUrl o.gateway reason)
  | .ok url =>
    if url.scheme ≠ "http" ∧ url.scheme ≠ "https" then .error (.otherScheme o.gateway)
    else if o.sessionLifetime = 0 then .error .noLifetime
    else if o.certificate.isSome ≠ o.privateKey.isSome then .error .halfKeyPair
    else .ok url

end StorageGateway
