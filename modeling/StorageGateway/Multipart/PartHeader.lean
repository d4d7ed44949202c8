import StorageGateway.Http.Header
import StorageGateway.Text.Utf8

/-!
# The header of a part

Each part of a multipart body starts with header lines, of which only the file name in
`Content-Disposition` matters. The lines follow the strict form of HTTP: a token, a colon and a
value without control characters, at most 32 of them, ended by an empty line. The file name is
found by a search for the word `filename` inside the value rather than by reading the value's
grammar, so that names written without care are found as well.

## Main definitions

* `Multipart.parseHeader?`: the header lines of a part.
* `Multipart.attribute?`: the value of an attribute in a `Content-Disposition` value.
* `Multipart.fileName?`: the file name of a part.
-/

namespace StorageGateway.Multipart

/-- The largest number of header lines. -/
def maxHeaderLines : Nat := 32

/-- The longest name of a header line. -/
def maxHeaderName : Nat := 65535

/-- The bytes allowed in the value of a header line. -/
def isValueByte (b : UInt8) : Bool := b == 0x09 || (0x20 ≤ b && b != 0x7F)

/-- What follows a line break at the start of a text. -/
def lineBreak? : Bytes → Option Bytes
  | 0x0D :: 0x0A :: rest => some rest
  | 0x0A :: rest => some rest
  | _ => none

/-- One header line and the text after it. -/
def headerLine? (bs : Bytes) : Option (Header × Bytes) :=
  let name := bs.takeWhile Ascii.isTokenChar
  if name.isEmpty || maxHeaderName < name.length then none
  else
    match bs.drop name.length with
    | 0x3A :: rest =>
      let rest := rest.dropWhile Ascii.isBlank
      let value := rest.takeWhile isValueByte
      (lineBreak? (rest.drop value.length)).map fun rest =>
        (⟨Bytes.toAscii (Bytes.toLower name), Bytes.trimBy Ascii.isBlank value⟩, rest)
    | _ => none

/-- The header lines up to the first empty line; there may be at most `allowance`. -/
def headerLines? : Nat → Bytes → Option Headers
  | allowance, bs =>
    match lineBreak? bs, allowance with
    | some _, _ => some []
    | none, 0 => none
    | none, allowance + 1 =>
      (headerLine? bs).bind fun (line, rest) => (headerLines? allowance rest).map (line :: ·)

/-- The header lines of a part. -/
def parseHeader? (bs : Bytes) : Option Headers := headerLines? maxHeaderLines bs

/-- The bytes up to the first quote without a backslash before it; `seen` holds the bytes so far,
last one first. -/
def quotedFrom (seen : Bytes) : Bytes → Option Bytes
  | [] => none
  | b :: rest =>
    if b = 0x22 ∧ seen.head? ≠ some 0x5C then some seen.reverse else quotedFrom (b :: seen) rest

/-- Every backslash before a quote is removed, other backslashes stay; `seen` holds the result so
far, last byte first. -/
def unquoteFrom (seen : Bytes) : Bytes → Bytes
  | [] => seen.reverse
  | 0x5C :: 0x22 :: rest => unquoteFrom (0x22 :: seen) rest
  | b :: rest => unquoteFrom (b :: seen) rest

/-- The value after the name of an attribute: blanks, an equals sign, blanks, and either text in
quotes or the bytes up to a semicolon or a space. -/
def attributeValue? (bs : Bytes) : Option Bytes :=
  match bs.dropWhile Ascii.isSpace with
  | 0x3D :: rest =>
    match rest.dropWhile Ascii.isSpace with
    | 0x22 :: rest => (quotedFrom [] rest).map (unquoteFrom [])
    | rest => some (rest.takeWhile fun b => b != 0x3B && b != 0x20)
  | _ => none

/-- Searches for the name of an attribute, which counts at the start of the searched text and
after white space or a semicolon; `fuel` bounds the number of occurrences and is enough when it is
the length of the text. -/
def attributeFrom (name : Bytes) : Nat → Bytes → Option Bytes
  | 0, _ => none
  | fuel + 1, bs =>
    (Bytes.cut? name bs).bind fun (before, after) =>
      match before.getLast? with
      | none => attributeValue? after
      | some b =>
        if Ascii.isSpace b || b == 0x3B then attributeValue? after
        else attributeFrom name fuel after

/-- The value of an attribute in a `Content-Disposition` value. -/
def attribute? (name : String) (value : Bytes) : Option Bytes :=
  attributeFrom (Bytes.ofAscii name) (value.length + 1) value

/-- The file name of a part, taken from the last `Content-Disposition` line. A name that is not
UTF-8 counts as none. -/
def fileName? (header : Headers) : Option String :=
  ((header.all "content-disposition").getLast?.bind (attribute? "filename")).bind Utf8.toString?

end StorageGateway.Multipart
