import StorageGateway.Bytes

/-!
# Media types

A media type has a type, a subtype and parameters. Names are compared without regard to case.
Parameters follow a semicolon and spaces; a value is a token or stands in quotes, where at least
one character is expected before the closing quote. What follows the last plus sign of a subtype
is a suffix and does not belong to it.

## Main definitions

* `MediaType`, `MediaType.parse?`.
* `MediaType.parameter?`: the value of the first parameter of a name.
-/

namespace StorageGateway

/-- A media type; the names are in lower case, values as written. -/
structure MediaType where
  type : Bytes
  subtype : Bytes
  parameters : List (Bytes × Bytes)
  deriving DecidableEq, Repr

namespace MediaType

/-- The characters allowed inside quotes. -/
def isQuotable (b : UInt8) : Bool := 0x1F < b && b != 0x7F

/-- A value after its opening quote, and the text after its closing quote. The first character
belongs to the value even when it is a quote. -/
def quoted? : Bytes → Option (Bytes × Bytes)
  | [] => none
  | b :: rest =>
    let inner := rest.takeWhile fun c => isQuotable c && c != 0x22
    match rest.drop inner.length with
    | 0x22 :: rest => if isQuotable b then some (b :: inner, rest) else none
    | _ => none

/-- A parameter's value, and the text after the semicolon that ends it. -/
def value? (bs : Bytes) : Option (Bytes × Bytes) :=
  match bs with
  | 0x22 :: rest =>
    (quoted? rest).bind fun (value, rest) =>
      match rest.dropWhile (· == 0x20) with
      | [] => some (value, [])
      | 0x3B :: rest => some (value, rest)
      | _ => none
  | _ =>
    let value := bs.takeWhile Ascii.isTokenChar
    match bs.drop value.length with
    | [] => some (value, [])
    | 0x3B :: rest => if value.isEmpty then none else some (value, rest)
    | _ => none

/-- The parameters in a text; `fuel` bounds their number and is enough when it is the length of
the text. -/
def parametersFrom : Nat → Bytes → Option (List (Bytes × Bytes))
  | 0, bs => if bs.all (· == 0x20) then some [] else none
  | fuel + 1, bs =>
    match bs.dropWhile (· == 0x20) with
    | [] => some []
    | bs =>
      let name := bs.takeWhile Ascii.isTokenChar
      match name.isEmpty, bs.drop name.length with
      | false, 0x3D :: rest =>
        (value? rest).bind fun (value, rest) =>
          (parametersFrom fuel rest).map ((Bytes.toLower name, value) :: ·)
      | _, _ => none

/-- A subtype without the suffix after its last plus sign, which may not be its first
character. -/
def dropSuffix (subtype : Bytes) : Bytes :=
  match (subtype.drop 1).reverse.dropWhile (· != 0x2B) with
  | _ :: before => subtype.take 1 ++ before.reverse
  | [] => subtype

/-- The media type that a text names. -/
def parse? (bs : Bytes) : Option MediaType :=
  let type := bs.takeWhile Ascii.isTokenChar
  match type.isEmpty, bs.drop type.length with
  | false, 0x2F :: rest =>
    let subtype := rest.takeWhile Ascii.isTokenChar
    let found (ps : List (Bytes × Bytes)) : MediaType :=
      ⟨Bytes.toLower type, dropSuffix (Bytes.toLower subtype), ps⟩
    match rest.drop subtype.length with
    | [] => some (found [])
    | b :: rest =>
      if !subtype.isEmpty && (b == 0x3B || b == 0x20) then
        (parametersFrom rest.length rest).map found
      else none
  | _, _ => none

/-- The value of the first parameter of that name. -/
def parameter? (m : MediaType) (name : String) : Option Bytes :=
  (m.parameters.find? (·.1 == Bytes.ofAscii name)).map (·.2)

end MediaType

end StorageGateway
