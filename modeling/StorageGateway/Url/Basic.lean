import StorageGateway.Text.Percent

/-!
# URLs

A URL has a scheme, possibly an authority, a path, and possibly a query and a fragment. The
schemes of the web are special: they always have a host and a path, each has a default port, and
their paths may be written with backslashes. A port is kept only when it is not the default one.
All parts hold percent-encoded ASCII text, ready to be written.

## Main definitions

* `Url`, `Url.Host`, `Url.Authority`, `Url.Path`.
* `Url.render`: the text of a URL.
* `Url.SchemeKind`: how URLs of a scheme are read.
-/

namespace StorageGateway

namespace Url

/-- How URLs of a scheme are read. -/
inductive SchemeKind where
  /-- A scheme of the web, with its default port. -/
  | web (port : Nat)
  /-- Files of the local machine. -/
  | file
  | other
  deriving DecidableEq, Repr

/-- The kind of a scheme. -/
def SchemeKind.ofScheme (scheme : String) : SchemeKind :=
  if scheme = "http" ∨ scheme = "ws" then .web 80
  else if scheme = "https" ∨ scheme = "wss" then .web 443
  else if scheme = "ftp" then .web 21
  else if scheme = "file" then .file
  else .other

/-- Whether a backslash separates segments like a slash. -/
def SchemeKind.isSpecial : SchemeKind → Bool
  | .other => false
  | _ => true

/-- A host. -/
inductive Host where
  /-- A name; the empty name stands for no host at all. -/
  | domain (name : String)
  | ipv4 (address : Nat)
  /-- The eight groups of 16 bits. -/
  | ipv6 (groups : List Nat)
  deriving DecidableEq, Repr

/-- Who is addressed, and as whom. -/
structure Authority where
  username : String := ""
  password : Option String := none
  host : Host
  port : Option Nat := none
  deriving DecidableEq, Repr

/-- A path. -/
inductive Path where
  /-- Segments, each after a slash. -/
  | segments (list : List String)
  /-- A text without structure. -/
  | plain (text : String)
  deriving DecidableEq, Repr

end Url

/-- A URL. -/
structure Url where
  scheme : String
  authority : Option Url.Authority
  path : Url.Path
  query : Option String := none
  fragment : Option String := none
  deriving DecidableEq, Repr

namespace Url

/-- The four decimal numbers of an address. -/
def renderIpv4 (address : Nat) : String :=
  ".".intercalate ([16777216, 65536, 256, 1].map fun d => toString (address / d % 256))

/-- A number in lower-case hexadecimal digits. -/
def renderHex (n : Nat) : String := String.ofList (Nat.toDigits 16 n)

/-- The length of the run of zeros that starts at each position. -/
def zeroRuns : List Nat → List Nat
  | [] => []
  | g :: rest =>
    let runs := zeroRuns rest
    (if g = 0 then 1 + runs.headD 0 else 0) :: runs

/-- The first of the longest runs of at least two zeros: its position and its length. -/
def longestZeroRun? (groups : List Nat) : Option (Nat × Nat) :=
  let runs := zeroRuns groups
  let longest := runs.foldl max 0
  if longest < 2 then none else some (runs.findIdx (· == longest), longest)

/-- The groups between colons; the first longest run of zeros is left out. -/
def renderIpv6 (groups : List Nat) : String :=
  let join (gs : List Nat) : String := ":".intercalate (gs.map renderHex)
  match longestZeroRun? groups with
  | none => join groups
  | some (start, length) => join (groups.take start) ++ "::" ++ join (groups.drop (start + length))

/-- The text of a host. -/
def Host.render : Host → String
  | .domain name => name
  | .ipv4 address => renderIpv4 address
  | .ipv6 groups => "[" ++ renderIpv6 groups ++ "]"

/-- The text of a user name with a password, up to the sign before the host. -/
def Authority.renderUser (a : Authority) : String :=
  match a.password with
  | some password => a.username ++ ":" ++ password ++ "@"
  | none => if a.username.isEmpty then "" else a.username ++ "@"

/-- The text of an authority. -/
def Authority.render (a : Authority) : String :=
  a.renderUser ++ a.host.render ++
    match a.port with
    | some port => ":" ++ toString port
    | none => ""

/-- The text of a path. -/
def Path.render : Path → String
  | .segments list => String.join (list.map ("/" ++ ·))
  | .plain text => text

/-- What stands before the path. A path that starts with an empty segment is kept apart from the
scheme, because two slashes there would start an authority. -/
def beforePath (u : Url) : String :=
  match u.authority, u.path with
  | some a, _ => "//" ++ a.render
  | none, .segments ("" :: _ :: _) => "/."
  | none, _ => ""

/-- A part after its mark; nothing when it is absent. -/
def marked (mark : String) : Option String → String
  | some text => mark ++ text
  | none => ""

/-- The text of a URL. -/
def render (u : Url) : String :=
  u.scheme ++ ":" ++ u.beforePath ++ u.path.render ++ marked "?" u.query ++ marked "#" u.fragment

/-- Whether the URL names a host. -/
def hasHost (u : Url) : Bool :=
  match u.authority with
  | some a => a.host != .domain ""
  | none => false

/-! ### Kept bytes -/

/-- Bytes kept in a fragment. -/
def keptInFragment (b : UInt8) : Bool :=
  Ascii.isGraphic b && !(Bytes.ofAscii "\"<>\x60").contains b

/-- Bytes kept in a query. -/
def keptInQuery (special : Bool) (b : UInt8) : Bool :=
  Ascii.isGraphic b && !(Bytes.ofAscii "\"#<>").contains b && !(special && b == 0x27)

/-- Bytes kept in a segment of a path. -/
def keptInPath (b : UInt8) : Bool :=
  keptInFragment b && !(Bytes.ofAscii "#?\x7b\x7d").contains b

/-- Bytes kept in a user name or password. -/
def keptInUser (b : UInt8) : Bool :=
  keptInPath b && !(Bytes.ofAscii "/:;=@[\\]^|").contains b

/-- Bytes kept in a path without structure or in the host of a scheme that is not of the web. -/
def keptInPlain (b : UInt8) : Bool := Ascii.isGraphic b || b == 0x20

/-- The percent-encoded text of some bytes. -/
def encodeText (keep : UInt8 → Bool) (bs : Bytes) : String := String.ofList (Percent.encode keep bs)

end Url

end StorageGateway
