import StorageGateway.Text.Utf8

/-!
# Percent encoding

A byte outside a chosen set is written as a percent sign and two upper-case hexadecimal digits.
Reading accepts digits of either case and leaves every other use of the percent sign alone. The
set is a parameter: paths, cookies, header parameters and pages each keep other bytes.

## Main definitions

* `Percent.encode`, `Percent.encodeString`: writing under a set of kept bytes.
* `Percent.decode`, `Percent.decodeString?`: reading, the second as UTF-8 text.
* `Percent.keptInComponent`: the unreserved bytes of a path segment or header parameter.
-/

namespace StorageGateway.Percent

/-- The escape of one byte. -/
def escape (b : UInt8) : List Char :=
  ['%', Ascii.upperHex (b.toNat / 16), Ascii.upperHex (b.toNat % 16)]

/-- Bytes in `keep` stand for themselves, all others are escaped. -/
def encode (keep : UInt8 → Bool) (bs : Bytes) : List Char :=
  bs.flatMap fun b => if keep b then [Char.ofNat b.toNat] else escape b

/-- The encoding of the UTF-8 form of a text. -/
def encodeString (keep : UInt8 → Bool) (s : String) : String :=
  String.ofList (encode keep (Utf8.ofString s))

/-- Reads on; `seen` holds the bytes decoded so far, last one first. -/
def decodeFrom (seen : Bytes) : Bytes → Bytes
  | [] => seen.reverse
  | b :: h :: l :: rest =>
    if b = 0x25 then
      match Ascii.hexValue? h, Ascii.hexValue? l with
      | some x, some y => decodeFrom (UInt8.ofNat (16 * x + y) :: seen) rest
      | _, _ => decodeFrom (b :: seen) (h :: l :: rest)
    else decodeFrom (b :: seen) (h :: l :: rest)
  | b :: rest => decodeFrom (b :: seen) rest

/-- Every percent sign followed by two hexadecimal digits becomes the byte they spell. -/
def decode (bs : Bytes) : Bytes := decodeFrom [] bs

/-- The text whose UTF-8 form is percent-encoded in `s`; `none` when the bytes are not UTF-8. -/
def decodeString? (s : String) : Option String := Utf8.toString? (decode (Utf8.ofString s))

/-- The unreserved bytes: letters, digits and `-._~`. -/
def keptInComponent (b : UInt8) : Bool :=
  Ascii.isAlphanumeric b || b == 0x2D || b == 0x2E || b == 0x5F || b == 0x7E

/-- A text as one path segment or header parameter. -/
def encodeComponent (s : String) : String := encodeString keptInComponent s

end StorageGateway.Percent
