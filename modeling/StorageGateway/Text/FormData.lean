import StorageGateway.Text.Percent

/-!
# URL-encoded forms

The `application/x-www-form-urlencoded` format: a list of named values, joined by `&`, with `=`
between name and value. A space is written `+`; letters, digits and `*-._` stand for themselves;
every other byte is percent-encoded. Reading is lenient: bytes that are not UTF-8 become
replacement characters and empty items are skipped.

## Main definitions

* `FormData.mediaType`: the name of the format.
* `FormData.encodeText`: one name or value.
* `FormData.encode`, `FormData.decode`: a whole list.
-/

namespace StorageGateway.FormData

/-- The media type of the format. -/
def mediaType : String := "application/x-www-form-urlencoded"

/-- The bytes that stand for themselves. -/
def isKept (b : UInt8) : Bool :=
  Ascii.isAlphanumeric b || b == 0x2A || b == 0x2D || b == 0x2E || b == 0x5F

/-- One byte of a name or value. -/
def encodeByte (b : UInt8) : List Char :=
  if isKept b then [Char.ofNat b.toNat] else if b = 0x20 then ['+'] else Percent.escape b

/-- A name or a value. -/
def encodeText (s : String) : List Char := (Utf8.ofString s).flatMap encodeByte

/-- The list of named values as one text, in order. -/
def encode (pairs : List (String × String)) : String :=
  String.ofList <|
    ['&'].intercalate (pairs.map fun p => encodeText p.1 ++ '=' :: encodeText p.2)

/-- The text of an encoded name or value. -/
def decodeText (bs : Bytes) : String :=
  Utf8.toStringLossy (Percent.decode (bs.map fun b => if b = 0x2B then 0x20 else b))

/-- One item; without `=` all of it is the name. -/
def decodeItem (item : Bytes) : String × String :=
  (decodeText (item.takeWhile (· ≠ 0x3D)), decodeText ((item.dropWhile (· ≠ 0x3D)).drop 1))

/-- The named values of a form, in order. -/
def decode (bs : Bytes) : List (String × String) :=
  ((bs.splitOn 0x26).filter (!·.isEmpty)).map decodeItem

end StorageGateway.FormData
