import StorageGateway.Url.Basic

/-!
# Numeric hosts

A host may be given by a number instead of a name. The old form has up to four numbers between
dots, each decimal, octal or hexadecimal, of which the last one fills all remaining bytes. The new
form has eight hexadecimal groups between colons; one run of zero groups may be left out, and the
last two groups may be written as four decimal numbers.

## Main definitions

* `Url.endsInNumber`, `Url.ipv4?`: the old form.
* `Url.ipv6?`: the new form.
-/

namespace StorageGateway.Url

/-- The value of digits in a base. -/
def numberIn? (base : Nat) (cs : List Char) : Option Nat :=
  cs.foldlM
    (fun n c =>
      (Ascii.hexValue? (UInt8.ofNat c.toNat)).bind fun d =>
        if d < base ∧ c.toNat < 0x80 then some (base * n + d) else none)
    0

/-- The value of one number of the old form: hexadecimal after `0x`, octal after `0`. -/
def ipv4Number? : List Char → Option Nat
  | [] => none
  | '0' :: 'x' :: cs | '0' :: 'X' :: cs => numberIn? 16 cs
  | '0' :: c :: cs => numberIn? 8 (c :: cs)
  | cs => numberIn? 10 cs

/-- The parts between dots; a dot at the end separates nothing. -/
def dottedParts (cs : List Char) : List (List Char) :=
  match (cs.splitOn '.').reverse with
  | [] :: last :: parts => (last :: parts).reverse
  | parts => parts.reverse

/-- Whether a name has to be read as numbers because its last part is one. -/
def endsInNumber (cs : List Char) : Bool :=
  match (dottedParts cs).getLast? with
  | none | some [] => false
  | some last => last.all Char.isDigit || (ipv4Number? last).isSome

/-- The address of some numbers, of which all but the last are bytes. -/
def ipv4OfNumbers? (numbers : List Nat) : Option Nat :=
  match numbers.reverse with
  | [] => none
  | last :: others =>
    let others := others.reverse
    let size := Nat.pow 256 (4 - others.length)
    if others.length ≤ 3 ∧ last < size ∧ others.all (· < 256) then
      some (others.foldl (fun n x => 256 * n + x) 0 * size + last)
    else none

/-- The address that a name spells in numbers. -/
def ipv4? (cs : List Char) : Option Nat := ((dottedParts cs).mapM ipv4Number?).bind ipv4OfNumbers?

/-- A decimal number of one byte without superfluous zeros. -/
def decimalByte? (cs : List Char) : Option Nat :=
  match cs with
  | [] => none
  | '0' :: _ :: _ => none
  | _ => (numberIn? 10 cs).filter (· < 256)

/-- A group of one to four hexadecimal digits. -/
def hexGroup? (cs : List Char) : Option Nat :=
  if cs.isEmpty ∨ 4 < cs.length then none else numberIn? 16 cs

/-- The two groups that four decimal numbers stand for. -/
def dottedGroups? (cs : List Char) : Option (List Nat) :=
  match (cs.splitOn '.').mapM decimalByte? with
  | some [a, b, c, d] => some [256 * a + b, 256 * c + d]
  | _ => none

/-- The groups between colons; `atEnd` when the address ends with them, so that the last one may
be dotted. -/
def groups? (atEnd : Bool) (cs : List Char) : Option (List Nat) :=
  if cs.isEmpty then some []
  else
    let parts := cs.splitOn ':'
    match parts.reverse with
    | last :: others =>
      if atEnd && last.contains '.' then
        (others.reverse.mapM hexGroup?).bind fun gs => (dottedGroups? last).map (gs ++ ·)
      else parts.mapM hexGroup?
    | [] => none

/-- The text before two colons and after them. -/
def cutColons? : List Char → Option (List Char × List Char)
  | ':' :: ':' :: cs => some ([], cs)
  | c :: cs => (cutColons? cs).map fun p => (c :: p.1, p.2)
  | [] => none

/-- The groups of an address in the new form. -/
def ipv6? (cs : List Char) : Option (List Nat) :=
  match cutColons? cs with
  | none => if cs.isEmpty then none else (groups? true cs).filter fun gs => gs.length = 8
  | some (before, after) =>
    match groups? false before, groups? true after with
    | some left, some right =>
      if left.length + right.length ≤ 7 then
        some (left ++ List.replicate (8 - left.length - right.length) 0 ++ right)
      else none
    | _, _ => none

end StorageGateway.Url
