import StorageGateway.Cookie.Jar

/-!
# Set-Cookie lines

Every change of a jar is sent to the browser as one `set-cookie` field. Name and value are
percent-encoded so that no byte of them ends the pair. A stored cookie is kept from scripts and
from requests of other sites and lives for a fixed time; a removed one gets an empty value and a
date in the past.

## Main definitions

* `Cookie.Policy`: how long cookies live and whether they need a secure connection.
* `Cookie.line`: the line of one change.
* `Jar.setCookies`: the fields of all changes.
-/

namespace StorageGateway.Cookie

/-- The bytes of a cookie's name or value that stand for themselves. -/
def isKept (b : UInt8) : Bool :=
  Ascii.isGraphic b &&
    !(Bytes.ofAscii "\"<>\x60#?\x7b\x7d/:;=@[\\]^|%(),").contains b

/-- How cookies are stored. -/
structure Policy where
  /-- The lifetime of a stored cookie in seconds. -/
  lifetime : Nat
  /-- Whether a stored cookie is only sent over secure connections. -/
  secure : Bool
  deriving DecidableEq, Repr

/-- The lifetime as it is announced, at most the largest signed 64-bit number. -/
def Policy.maxAge (p : Policy) : Nat := min p.lifetime 9223372036854775807

/-- A date in the past. -/
def longAgo : String := "Thu, 01 Jan 1970 00:00:00 GMT"

/-- The pair of name and value at the start of a line. -/
def pairText (name value : String) : String :=
  Percent.encodeString isKept name ++ "=" ++ Percent.encodeString isKept value

/-- The line that tells the browser about a change. -/
def line (p : Policy) (name : String) : Change → String
  | .store value =>
    pairText name value ++ "; HttpOnly; SameSite=Lax" ++ (if p.secure then "; Secure" else "") ++
      "; Path=/; Max-Age=" ++ toString p.maxAge
  | .expire => pairText name "" ++ "; Path=/; Max-Age=0; Expires=" ++ longAgo

/-- The fields that tell the browser about all changes of a jar. -/
def Jar.setCookies (p : Policy) (jar : Jar) : Headers :=
  jar.changes.map fun c => .ofText "set-cookie" (line p c.1 c.2)

end StorageGateway.Cookie
