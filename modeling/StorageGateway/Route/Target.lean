import StorageGateway.Bytes

/-!
# Request targets

A request names its target by a path with an optional query, or by a whole URL, of which only the
path matters here. A URL without a path stands for the root.

## Main definitions

* `Route.pathOf`: the path of a request target.
-/

namespace StorageGateway.Route

/-- The text up to the query or fragment. -/
def beforeQuery (bs : Bytes) : Bytes := bs.takeWhile fun b => b != 0x3F && b != 0x23

/-- The path of a text that starts with the path, if it has one. -/
def leadingPath (bs : Bytes) : Bytes :=
  let path := beforeQuery bs
  if path.isEmpty then [0x2F] else path

/-- The path of a request target. A target that is neither a path nor a URL nor an asterisk names
a host alone and has the empty path. -/
def pathOf (target : Bytes) : Bytes :=
  match target with
  | 0x2F :: _ | 0x2A :: _ => leadingPath target
  | _ =>
    match Bytes.cut? (Bytes.ofAscii "://") target with
    | none => []
    | some (_, rest) =>
      leadingPath (rest.dropWhile fun b => b != 0x2F && b != 0x3F && b != 0x23)

end StorageGateway.Route
