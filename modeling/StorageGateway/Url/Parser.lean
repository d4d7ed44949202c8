import StorageGateway.Url.Address
import StorageGateway.Url.Domain

/-!
# Reading URLs

A text is read as a URL by cutting it: the fragment at the first number sign, the query at the
first question mark before it, the scheme at the first colon, and, where two slashes follow the
scheme, the authority up to the next slash. Blanks around the text and line breaks inside it do
not count. The segments of a path are cleaned of `.` and `..`, also in their percent-encoded
forms. A reference is read relative to a URL of a web scheme.

## Main definitions

* `Url.Refusal`: why a text is no URL.
* `Url.parse`: the URL that a text spells.
* `Url.resolve`: the URL that a reference means relative to another.
-/

namespace StorageGateway.Url

/-- Why a text is no URL. -/
inductive Refusal where
  | noScheme
  | emptyHost
  | badPort
  | badIpv6
  | badIpv4
  | badName
  | badHostCharacter
  deriving DecidableEq, Repr

/-- The words for a refusal. -/
def Refusal.message : Refusal → String
  | .noScheme => "relative URL without a base"
  | .emptyHost => "empty host"
  | .badPort => "invalid port number"
  | .badIpv6 => "invalid IPv6 address"
  | .badIpv4 => "invalid IPv4 address"
  | .badName => "invalid international domain name"
  | .badHostCharacter => "invalid domain character"

/-! ### Cutting -/

/-- The text without what does not count: control characters and spaces around it, and line
breaks and tabs inside. -/
def clean (bs : Bytes) : Bytes :=
  (Bytes.trimBy (· ≤ 0x20) bs).filter fun b => b != 0x09 && b != 0x0A && b != 0x0D

/-- The text before the first occurrence of a mark, and the text after it. -/
def cutAt (mark : UInt8) (bs : Bytes) : Bytes × Option Bytes :=
  match bs.dropWhile (· != mark) with
  | [] => (bs, none)
  | _ :: after => (bs.takeWhile (· != mark), some after)

/-- The text before the last occurrence of a mark, if there is one, and the text after it. -/
def cutAtLast (mark : UInt8) (bs : Bytes) : Option Bytes × Bytes :=
  match cutAt mark bs.reverse with
  | (_, none) => (none, bs)
  | (after, some before) => (some before.reverse, after.reverse)

/-- Bytes of a scheme after its first letter. -/
def isSchemeByte (b : UInt8) : Bool :=
  Ascii.isAlphanumeric b || b == 0x2B || b == 0x2D || b == 0x2E

/-- The scheme of a text in lower case, and the text after its colon. -/
def scheme? (bs : Bytes) : Option (String × Bytes) :=
  match cutAt 0x3A bs with
  | (name, some rest) =>
    if (name.head?.map Ascii.isAlpha).getD false && name.all isSchemeByte then
      some (Bytes.toAscii (Bytes.toLower name), rest)
    else none
  | _ => none

/-- A slash, or in special URLs a backslash. -/
def isSlash (special : Bool) (b : UInt8) : Bool := b == 0x2F || (special && b == 0x5C)

/-! ### Hosts -/

/-- The host in brackets. -/
def bracketHost (bs : Bytes) : Except Refusal Host :=
  match bs.reverse with
  | 0x5D :: inner =>
    match ipv6? (inner.reverse.map fun b => Char.ofNat b.toNat) with
    | some groups => .ok (.ipv6 groups)
    | none => .error .badIpv6
  | _ => .error .badIpv6

/-- The host that a text names in a special URL. -/
def specialHost (bs : Bytes) : Except Refusal Host :=
  match bs with
  | 0x5B :: rest => bracketHost rest
  | _ =>
    match Domain.toAscii? (Percent.decode bs) with
    | none => .error .badName
    | some "" => .error .emptyHost
    | some name =>
      if endsInNumber name.toList then
        match ipv4? name.toList with
        | some address => .ok (.ipv4 address)
        | none => .error .badIpv4
      else .ok (.domain name)

/-- Bytes that no host may hold. -/
def isHostBreaker (b : UInt8) : Bool := b == 0 || (Bytes.ofAscii " #/:<>?@[\\]^|").contains b

/-- The host that a text names in a URL of another scheme. -/
def plainHost (bs : Bytes) : Except Refusal Host :=
  match bs with
  | 0x5B :: rest => bracketHost rest
  | _ =>
    if bs.any isHostBreaker then .error .badHostCharacter
    else .ok (.domain (encodeText keptInPlain bs))

/-- The text of the host, up to the first colon outside brackets; `inside` tells whether a bracket
is open. -/
def hostPart (inside : Bool) : Bytes → Bytes
  | [] => []
  | b :: rest =>
    if b = 0x3A ∧ !inside then []
    else b :: hostPart (b == 0x5B || (inside && b != 0x5D)) rest

/-! ### Authorities -/

/-- A port and the text after it, which is empty or starts with a backslash. A port without digits
and the default port count as none. -/
def port? (default : Option Nat) (bs : Bytes) : Except Refusal (Option Nat × Bytes) :=
  let digits := bs.takeWhile Ascii.isDigit
  let rest := bs.drop digits.length
  let port := digits.foldl (fun n b => 10 * n + (b.toNat - 0x30)) 0
  if 65535 < port ∨ !(rest.isEmpty || rest.head? == some 0x5C) then .error .badPort
  else .ok (if digits.isEmpty ∨ some port = default then none else some port, rest)

/-- The user name and password before a host; an empty password counts as none. -/
def credentials (bs : Bytes) : String × Option String :=
  let encode := encodeText keptInUser
  match cutAt 0x3A bs with
  | (name, some password) =>
    (encode name, if password.isEmpty then none else some (encode password))
  | (name, none) => (encode name, none)

/-- The default port of a kind. -/
def SchemeKind.defaultPort? : SchemeKind → Option Nat
  | .web port => some port
  | _ => none

/-- The host of an authority in a URL of that kind. -/
def hostOf (kind : SchemeKind) (bs : Bytes) : Except Refusal Host :=
  if kind.isSpecial then if bs.isEmpty then .error .emptyHost else specialHost bs
  else plainHost bs

/-- The host and port of an authority, and the text after them. -/
def hostAndPort (kind : SchemeKind) (bs : Bytes) : Except Refusal (Host × Option Nat × Bytes) := do
  let name := hostPart false bs
  let h ← hostOf kind name
  match bs.drop name.length with
  | [] => return (h, none, [])
  | _ :: rest =>
    if h = .domain "" then throw .emptyHost
    let (port, rest) ← port? kind.defaultPort? rest
    return (h, port, rest)

/-- An authority, and the text after it. `isAll` tells that nothing follows the authority. -/
def authorityOf (kind : SchemeKind) (isAll : Bool) (bs : Bytes) :
    Except Refusal (Authority × Bytes) := do
  let (user, rest) := cutAtLast 0x40 bs
  if user = some [] ∧ rest.isEmpty ∧ !isAll then throw .emptyHost
  let (username, password) := ((user.map credentials).getD ("", none))
  let (h, port, rest) ← hostAndPort kind rest
  if h = .domain "" ∧ !(username.isEmpty && password.isNone) then throw .emptyHost
  return (⟨username, password, h, port⟩, rest)

/-! ### Paths -/

/-- Whether a segment is one of the spellings of a list. -/
def spells (forms : List String) (segment : Bytes) : Bool :=
  forms.any fun form => Bytes.toLower segment == Bytes.ofAscii form

/-- A segment that stands for the current directory. -/
def isHere (segment : Bytes) : Bool := spells [".", "%2e"] segment

/-- A segment that stands for the directory above. -/
def isAbove (segment : Bytes) : Bool := spells ["..", ".%2e", "%2e.", "%2e%2e"] segment

/-- A letter with a colon or a bar, which names a drive and is never left. -/
def isDrive (segment : String) : Bool :=
  match segment.toList with
  | [c, mark] => c.isAlpha && (mark == ':' || mark == '|')
  | _ => false

/-- One directory up; `above` holds the segments so far, last one first. -/
def goUp : List String → List String
  | [] => []
  | s :: above => if isDrive s then s :: above else above

/-- The segments without `.` and `..`; `above` holds the segments so far, last one first. A path
that ends in one of these two ends in a slash. -/
def cleanSegments (above : List String) : List Bytes → List String
  | [] => above.reverse
  | s :: rest =>
    let last := if rest.isEmpty then [""] else []
    if isAbove s then cleanSegments (last ++ goUp above) rest
    else if isHere s then cleanSegments (last ++ above) rest
    else cleanSegments (encodeText keptInPath s :: above) rest

/-- The parts between slashes. -/
def splitSlashes (special : Bool) (bs : Bytes) : List Bytes := bs.splitOnP (isSlash special)

/-- The segments of a path after those of another. -/
def pathFrom (special : Bool) (above : List String) (bs : Bytes) : List String :=
  cleanSegments above.reverse (splitSlashes special bs)

/-- The segments of the path that follows an authority. Special URLs always have a path. -/
def pathAfterAuthority (special : Bool) (bs : Bytes) : List String :=
  match bs with
  | [] => if special then [""] else []
  | b :: rest => pathFrom special [] (if isSlash special b then rest else b :: rest)

/-- The path of a local file: leading empty segments do not count, and the colon after a drive's
letter may be written as a bar. -/
def filePath (bs : Bytes) : List String :=
  match (pathFrom true [] bs).dropWhile (·.isEmpty) with
  | [] => [""]
  | s :: rest =>
    (if isDrive s then String.ofList ((s.toList.take 1) ++ [':']) else s) :: rest

/-! ### URLs -/

/-- A URL whose authority stands at the start of a text. `isAll` tells that neither a query nor a
fragment follows. -/
def afterSlashes (scheme : String) (kind : SchemeKind) (isAll : Bool) (bs : Bytes) :
    Except Refusal Url := do
  let part := bs.takeWhile fun b => !isSlash kind.isSpecial b
  let path := bs.drop part.length
  let (a, rest) ← authorityOf kind (isAll && path.isEmpty) part
  return ⟨scheme, some a, .segments (pathAfterAuthority kind.isSpecial (rest ++ path)), none, none⟩

/-- The URL of a local file. -/
def fileUrl (bs : Bytes) : Except Refusal Url := do
  let found (h : Host) (path : Bytes) : Url :=
    ⟨"file", some { host := h }, .segments (filePath path), none, none⟩
  match bs with
  | a :: b :: rest =>
    if isSlash true a && isSlash true b then
      let name := rest.takeWhile fun b => !isSlash true b
      let path := rest.drop name.length
      if name.isEmpty then return found (.domain "") path
      if isDrive (Bytes.toAscii name) then return found (.domain "") rest
      let h ← specialHost name
      return found (if h = .domain "localhost" then .domain "" else h) path
    else return found (.domain "") bs
  | _ => return found (.domain "") bs

/-- A URL of a scheme that is not special. -/
def otherUrl (scheme : String) (isAll : Bool) (bs : Bytes) : Except Refusal Url :=
  match bs with
  | 0x2F :: 0x2F :: rest => afterSlashes scheme .other isAll rest
  | 0x2F :: rest => .ok ⟨scheme, none, .segments (pathFrom false [] rest), none, none⟩
  | _ => .ok ⟨scheme, none, .plain (encodeText keptInPlain bs), none, none⟩

/-- The text cut into the part before the query, the query and the fragment. -/
def cutParts (bs : Bytes) : Bytes × Option Bytes × Option Bytes :=
  let (bs, fragment) := cutAt 0x23 bs
  let (bs, query) := cutAt 0x3F bs
  (bs, query, fragment)

/-- A URL with the query and fragment of a text. -/
def withParts (special : Bool) (query fragment : Option Bytes) (u : Url) : Url :=
  { u with
    query := query.map (encodeText (keptInQuery special))
    fragment := fragment.map (encodeText keptInFragment) }

/-- The URL that a text spells. -/
def parse (text : Bytes) : Except Refusal Url :=
  match scheme? (clean text) with
  | none => .error .noScheme
  | some (scheme, rest) =>
    let (bs, query, fragment) := cutParts rest
    let kind := SchemeKind.ofScheme scheme
    let isAll := query.isNone && fragment.isNone
    let u :=
      match kind with
      | .web _ => afterSlashes scheme kind isAll (bs.dropWhile (isSlash true))
      | .file => fileUrl bs
      | .other => otherUrl scheme isAll bs
    u.map (withParts kind.isSpecial query fragment)

/-- The segments of a path. -/
def Path.toSegments : Path → List String
  | .segments list => list
  | .plain _ => []

/-- The URL that a reference without a scheme means relative to a URL of a web scheme. -/
def resolveRelative (base : Url) (bs : Bytes) : Except Refusal Url :=
  let kind := SchemeKind.ofScheme base.scheme
  let (bs, query, fragment) := cutParts bs
  let sibling (path : Path) : Url := ⟨base.scheme, base.authority, path, none, none⟩
  let u : Except Refusal Url :=
    match bs with
    | [] => .ok (sibling base.path)
    | a :: rest =>
      if isSlash true a then
        if (rest.head?.map (isSlash true)).getD false then
          afterSlashes base.scheme kind true (rest.dropWhile (isSlash true))
        else .ok (sibling (.segments (pathFrom true [] rest)))
      else .ok (sibling (.segments (pathFrom true base.path.toSegments.dropLast (a :: rest))))
  u.map fun u =>
    let u := withParts true query fragment u
    if bs.isEmpty ∧ query.isNone then { u with query := base.query } else u

/-- The URL that a reference means relative to a URL of a web scheme. -/
def resolve (base : Url) (reference : Bytes) : Except Refusal Url :=
  let bs := clean reference
  match scheme? bs with
  | none => resolveRelative base bs
  | some (scheme, rest) =>
    if scheme = base.scheme ∧ (rest.takeWhile (isSlash true)).length < 2 then
      resolveRelative base rest
    else parse reference

end StorageGateway.Url
