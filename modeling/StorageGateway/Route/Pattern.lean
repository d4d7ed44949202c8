import StorageGateway.Fault
import StorageGateway.Text.Percent

/-!
# Path patterns

A pattern describes paths segment by segment. A literal matches itself, a capture matches any one
segment, and the rest of a path may be captured as a whole. The last segment of a pattern captures
no empty text. Where several patterns match a path, the one wins that is more definite at the
first segment in which they differ: a literal before a capture, a capture before a rest.

## Main definitions

* `Route.Segment`, `Route.Pattern`.
* `Route.matchPath?`: the captured segments of a path.
* `Route.select?`: the best of several patterns.
* `Route.Captures.texts?`: the captured segments as text.
-/

namespace StorageGateway.Route

/-- A segment of a pattern. -/
inductive Segment where
  | literal (text : String)
  /-- Any one segment. -/
  | capture (name : String)
  /-- All segments from here on. -/
  | rest (name : String)
  deriving DecidableEq, Repr

/-- The segments after the first slash. -/
abbrev Pattern := List Segment

/-- The captured parts of a path, still percent-encoded, in the order of the pattern. -/
abbrev Captures := List (String × Bytes)

/-- The segments of a path after its first slash; a path that does not start with a slash has
none. -/
def segments (path : Bytes) : List Bytes :=
  match path with
  | 0x2F :: rest => rest.splitOn 0x2F
  | _ => []

/-- Matches the segments of a path one by one. -/
def matchSegments? : Pattern → List Bytes → Option Captures
  | [], [] => some []
  | .literal text :: pattern, s :: path =>
    if s = Bytes.ofAscii text then matchSegments? pattern path else none
  | .capture name :: pattern, s :: path =>
    if pattern.isEmpty && s.isEmpty then none
    else (matchSegments? pattern path).map ((name, s) :: ·)
  | [.rest name], s :: path =>
    let whole := [0x2F].intercalate (s :: path)
    if whole.isEmpty then none else some [(name, whole)]
  | _, _ => none

/-- The captures of a path that the pattern matches. -/
def matchPath? (pattern : Pattern) (path : Bytes) : Option Captures :=
  matchSegments? pattern (segments path)

/-- How indefinite a segment is. -/
def Segment.rank : Segment → Nat
  | .literal _ => 0
  | .capture _ => 1
  | .rest _ => 2

/-- Whether the first pattern is more definite at the first segment in which the ranks differ. -/
def beats (p q : Pattern) : Bool :=
  match p, q with
  | a :: p, b :: q => a.rank < b.rank || (a.rank == b.rank && beats p q)
  | _, _ => false

/-- The better of two matches. -/
def better {α : Type} (pattern : α → Pattern) (x y : α × Captures) : α × Captures :=
  if beats (pattern y.1) (pattern x.1) then y else x

/-- The item whose pattern matches the path best, with the captures. -/
def select? {α : Type} (pattern : α → Pattern) (items : List α) (path : Bytes) :
    Option (α × Captures) :=
  match items.filterMap fun item => (matchPath? (pattern item) path).map ((item, ·)) with
  | [] => none
  | first :: others => some (others.foldl (better pattern) first)

/-- The text of each capture; the name of the first one that is not UTF-8 is the error. -/
def Captures.texts? : Captures → Except String (List (String × String))
  | [] => .ok []
  | (name, bs) :: rest =>
    match Utf8.toString? (Percent.decode bs) with
    | none => .error name
    | some text => (texts? rest).map ((name, text) :: ·)

end StorageGateway.Route
