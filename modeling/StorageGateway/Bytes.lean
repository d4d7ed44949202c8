/-!
# Bytes

Requests, replies and uploads are byte strings; names and messages are text. This file fixes the
type of byte strings and the few operations on them that every format uses: the ASCII classes,
equality up to ASCII case, and cutting at the first occurrence of a pattern.

## Main definitions

* `Bytes`: a byte string.
* `Ascii.isAlphanumeric`, `Ascii.isBlank`, `Ascii.isTokenChar`: classes of bytes.
* `Ascii.hexValue?`, `Ascii.upperHex`, `Ascii.lowerHex`: hexadecimal digits.
* `Bytes.cut?`: the parts before and after the first occurrence of a pattern.
-/

namespace StorageGateway

/-- A byte string. -/
abbrev Bytes := List UInt8

namespace Ascii

/-- A decimal digit. -/
def isDigit (b : UInt8) : Bool := 0x30 ≤ b && b ≤ 0x39

/-- An upper-case letter. -/
def isUpper (b : UInt8) : Bool := 0x41 ≤ b && b ≤ 0x5A

/-- A lower-case letter. -/
def isLower (b : UInt8) : Bool := 0x61 ≤ b && b ≤ 0x7A

/-- A letter. -/
def isAlpha (b : UInt8) : Bool := isUpper b || isLower b

/-- A letter or a digit. -/
def isAlphanumeric (b : UInt8) : Bool := isAlpha b || isDigit b

/-- A space or a tab. -/
def isBlank (b : UInt8) : Bool := b == 0x20 || b == 0x09

/-- White space: space, tab, line feed, form feed or carriage return. -/
def isSpace (b : UInt8) : Bool := isBlank b || b == 0x0A || b == 0x0C || b == 0x0D

/-- A printing character, the space excluded. -/
def isGraphic (b : UInt8) : Bool := 0x21 ≤ b && b ≤ 0x7E

/-- A character of a token: a letter, a digit or one of the fifteen token marks of HTTP. -/
def isTokenChar (b : UInt8) : Bool :=
  isAlphanumeric b ||
    [0x21, 0x23, 0x24, 0x25, 0x26, 0x27, 0x2A, 0x2B, 0x2D, 0x2E, 0x5E, 0x5F, 0x60, 0x7C,
      0x7E].contains b

/-- The lower-case form of a letter; other bytes stay. -/
def toLower (b : UInt8) : UInt8 := if isUpper b then b + 0x20 else b

/-- The value of a hexadecimal digit of either case. -/
def hexValue? (b : UInt8) : Option Nat :=
  let n := b.toNat
  if 0x30 ≤ n ∧ n ≤ 0x39 then some (n - 0x30)
  else if 0x41 ≤ n ∧ n ≤ 0x46 then some (n - 0x37)
  else if 0x61 ≤ n ∧ n ≤ 0x66 then some (n - 0x57)
  else none

/-- The upper-case hexadecimal digit of a value below 16. -/
def upperHex (n : Nat) : Char := if n < 10 then Char.ofNat (0x30 + n) else Char.ofNat (0x37 + n)

/-- The lower-case hexadecimal digit of a value below 16. -/
def lowerHex (n : Nat) : Char := if n < 10 then Char.ofNat (0x30 + n) else Char.ofNat (0x57 + n)

end Ascii

namespace Bytes

/-- The bytes of an ASCII text, one for each character. -/
def ofAscii (s : String) : Bytes := s.toList.map fun c => UInt8.ofNat c.toNat

/-- The text of ASCII bytes, one character for each byte. -/
def toAscii (bs : Bytes) : String := String.ofList (bs.map fun b => Char.ofNat b.toNat)

/-- ASCII letters are put into lower case. -/
def toLower (bs : Bytes) : Bytes := bs.map Ascii.toLower

/-- Leading and trailing bytes satisfying `p` are removed. -/
def trimBy (p : UInt8 → Bool) (bs : Bytes) : Bytes :=
  ((bs.dropWhile p).reverse.dropWhile p).reverse

/-- Searches `rest` for `pattern`; `seen` holds the bytes passed so far, last one first. -/
def cutFrom (pattern : Bytes) (seen : Bytes) : Bytes → Option (Bytes × Bytes)
  | [] => if pattern.isEmpty then some (seen.reverse, []) else none
  | b :: rest =>
    if pattern.isPrefixOf (b :: rest) then some (seen.reverse, (b :: rest).drop pattern.length)
    else cutFrom pattern (b :: seen) rest

/-- The bytes before the first occurrence of `pattern` and the bytes after it. -/
def cut? (pattern bs : Bytes) : Option (Bytes × Bytes) := cutFrom pattern [] bs

end Bytes

end StorageGateway
