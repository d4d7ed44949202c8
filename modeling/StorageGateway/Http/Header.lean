import StorageGateway.Bytes

/-!
# Header fields

A header field has a name in lower case and a value of bytes. Values are written as they are, so
only those without control characters, tabs excepted, may be written at all. A value is read as
text only when all of it is visible ASCII, blanks included.

## Main definitions

* `Header`, `Headers`: a field, and the fields of a message in order.
* `Headers.first?`, `Headers.all`: look-up by name.
* `Header.isWritable`, `Header.text?`: the two restrictions on values.
-/

namespace StorageGateway

/-- A header field; the name is in lower case. -/
structure Header where
  name : String
  value : Bytes
  deriving DecidableEq, Repr

/-- The header fields of a message in order. -/
abbrev Headers := List Header

namespace Header

/-- A field whose value is ASCII text. -/
def ofText (name value : String) : Header := ⟨name, Bytes.ofAscii value⟩

/-- Values that may be written: no control characters except the tab. -/
def isWritable (value : Bytes) : Bool :=
  value.all fun b => b == 0x09 || (0x20 ≤ b && b != 0x7F)

/-- The text of a value that is visible ASCII with blanks. -/
def text? (value : Bytes) : Option String :=
  if value.all fun b => b == 0x09 || (0x20 ≤ b && b < 0x7F) then some (Bytes.toAscii value)
  else none

end Header

namespace Headers

/-- The value of the first field of that name. -/
def first? (hs : Headers) (name : String) : Option Bytes :=
  (hs.find? (·.name == name)).map (·.value)

/-- The values of all fields of that name in order. -/
def all (hs : Headers) (name : String) : List Bytes :=
  (hs.filter (·.name == name)).map (·.value)

end Headers

end StorageGateway
