import StorageGateway.Bytes

/-!
# Key files

Certificates and keys are kept in text files, as sections between a line that names the type of
the section and a line that ends it. Inside a section stands its content in base64. Text outside
of sections does not count.

## Main definitions

* `Pem.isWellFormed`: whether every section of a file is ended and holds base64.
-/

namespace StorageGateway.Pem

/-- Where a reader stands between two lines: outside of sections, or in one whose last line starts
with `ending`, with the base64 text so far. -/
inductive State where
  | outside
  | inside (ending body : Bytes)
  deriving DecidableEq, Repr

/-- The bytes of line ends and spaces. -/
def isFiller (b : UInt8) : Bool := b == 0x0A || b == 0x0D || b == 0x20

/-- A line without the filler at its end. -/
def trimEnd (line : Bytes) : Bytes := (line.reverse.dropWhile isFiller).reverse

/-- The start of a line that starts a section. -/
def opening : Bytes := Bytes.ofAscii "-----BEGIN "

/-- The start of the line that ends the section which a line starts. Exactly five dashes have to
follow the type, and filler between them does not count. -/
def ending? (line : Bytes) : Option Bytes :=
  let tail := line.reverse.takeWhile fun b => b == 0x2D || isFiller b
  if tail.count 0x2D = 5 then
    let dashes := tail.reverse.dropWhile isFiller
    let type := (line.take (line.length - dashes.length)).drop opening.length
    some (Bytes.ofAscii "-----END " ++ type ++ Bytes.ofAscii "-----")
  else none

/-- A character of the base64 alphabet. -/
def isDigit (b : UInt8) : Bool := Ascii.isAlphanumeric b || b == 0x2B || b == 0x2F

/-- Whether a text is base64, filled with equals signs to a multiple of four characters. -/
def isBase64 (bs : Bytes) : Bool :=
  let digits := bs.takeWhile isDigit
  let fill := bs.drop digits.length
  bs.length % 4 == 0 && fill.length ≤ 2 && fill.all (· == 0x3D)

/-- Reads one line; `none` when it makes the file malformed. -/
def State.next (s : State) (line : Bytes) : Option State :=
  if opening.isPrefixOf line then
    (ending? line).map fun ending =>
      match s with
      | .outside => .inside ending []
      | .inside _ body => .inside ending body
  else
    match s with
    | .outside => some .outside
    | .inside ending body =>
      if ending.isPrefixOf line then if isBase64 body then some .outside else none
      else some (.inside ending (body ++ trimEnd line))

/-- Whether every section of a file is ended and holds base64. -/
def isWellFormed (bs : Bytes) : Bool :=
  (bs.splitOnP fun b => b == 0x0A || b == 0x0D).foldlM State.next .outside == some .outside

end StorageGateway.Pem
