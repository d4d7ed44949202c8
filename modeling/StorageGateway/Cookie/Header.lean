import StorageGateway.Http.Header
import StorageGateway.Text.Percent

/-!
# Cookies of a request

A request carries its cookies in `cookie` fields, as pairs of name and value between semicolons.
Blanks around names and values are no part of them, and both are percent-encoded UTF-8. A pair
without `=`, without a name, or whose bytes are not UTF-8 is skipped, and so is a whole field that
is not visible ASCII.

## Main definitions

* `Cookie.pair?`: one pair.
* `Cookie.pairs`: the pairs of a request in order.
-/

namespace StorageGateway.Cookie

/-- The decoded text of an encoded name or value. -/
def text? (bs : Bytes) : Option String := Utf8.toString? (Percent.decode bs)

/-- A pair of name and value. -/
def pair? (bs : Bytes) : Option (String × String) :=
  match Bytes.cut? [0x3D] bs with
  | none => none
  | some (name, value) =>
    let name := Bytes.trimBy Ascii.isBlank name
    if name.isEmpty then none
    else
      match text? name, text? (Bytes.trimBy Ascii.isBlank value) with
      | some name, some value => some (name, value)
      | _, _ => none

/-- The pairs of one `cookie` field. -/
def pairsOfField (value : Bytes) : List (String × String) :=
  if (StorageGateway.Header.text? value).isSome then (value.splitOn 0x3B).filterMap pair? else []

/-- The pairs of a request in order. -/
def pairs (hs : Headers) : List (String × String) := (hs.all "cookie").flatMap pairsOfField

end StorageGateway.Cookie
