/-!
# Compact tables

Properties of characters are given by the standard as long tables. Here they are written as lists
of lines in which tokens are separated by spaces and numbers are hexadecimal. A range of
characters is written as its first and last number with a dash between them.

## Main definitions

* `Table.tokens`, `Table.hex`: the tokens of a table and the value of a number.
* `Table.Ranges`, `Table.ranges`: a set of characters and its reading.
-/

namespace StorageGateway.Table

/-- The tokens of a table. -/
def tokens (lines : List String) : List (List Char) :=
  lines.flatMap fun line => line.toList.splitOn ' '

/-- The value of an upper-case hexadecimal digit. -/
def digit (c : Char) : Nat := if c.isDigit then c.toNat - 0x30 else c.toNat - 0x37

/-- The value of a hexadecimal number. -/
def hex (cs : List Char) : Nat := cs.foldl (fun n c => 16 * n + digit c) 0

/-- The text before the first character that satisfies `p`, that character and the text after
it. -/
def cut (p : Char → Bool) (cs : List Char) : List Char × List Char :=
  (cs.takeWhile fun c => !p c, cs.dropWhile fun c => !p c)

/-- A set of characters, as ranges that do not overlap. -/
abbrev Ranges := List (Nat × Nat)

/-- The range that a token stands for. -/
def range (token : List Char) : Nat × Nat :=
  match cut (· == '-') token with
  | (first, _ :: last) => (hex first, hex last)
  | (only, []) => (hex only, hex only)

/-- The ranges of a table. -/
def ranges (lines : List String) : Ranges := (tokens lines).map range

/-- Whether a character lies in one of the ranges. -/
def Ranges.has (rs : Ranges) (c : Char) : Bool :=
  rs.any fun r => r.1 ≤ c.toNat && c.toNat ≤ r.2

end StorageGateway.Table
