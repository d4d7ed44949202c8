import StorageGateway.Bytes

/-!
# Punycode

Labels of host names outside ASCII are written in ASCII: the ASCII characters first, and after a
hyphen the positions and values of the others, as differences in a number system with digits of
variable weight.

## Main definitions

* `Punycode.encode`, `Punycode.decode?`.
-/

namespace StorageGateway.Punycode

/-- The digit of a value below 36. -/
def digit (n : Nat) : Char := if n < 26 then Char.ofNat (0x61 + n) else Char.ofNat (0x16 + n)

/-- The value of a digit. -/
def digitValue? (c : Char) : Option Nat :=
  let n := c.toNat
  if 0x61 ≤ n ∧ n ≤ 0x7A then some (n - 0x61)
  else if 0x41 ≤ n ∧ n ≤ 0x5A then some (n - 0x41)
  else if 0x30 ≤ n ∧ n ≤ 0x39 then some (n - 0x16)
  else none

/-- The least digit that is not the last one, at the weight step `k`. -/
def threshold (k bias : Nat) : Nat := min 26 (max 1 (k - bias))

/-- A difference as digits of variable weight, the least significant one first. -/
def digits (bias k q : Nat) : List Char :=
  let t := threshold k bias
  if q < t then [digit q]
  else digit (t + (q - t) % (36 - t)) :: digits bias (k + 36) ((q - t) / (36 - t))
termination_by q
decreasing_by
  have h : 1 ≤ threshold k bias ∧ threshold k bias ≤ 26 := by unfold threshold; omega
  have : (q - threshold k bias) / (36 - threshold k bias) ≤ q - threshold k bias :=
    Nat.div_le_self _ _
  omega

/-- Divides until the rest is small, and counts the steps of 36. -/
def settle (delta k : Nat) : Nat × Nat :=
  if delta ≤ 455 then (delta, k) else settle (delta / 35) (k + 36)
termination_by delta
decreasing_by omega

/-- The bias after a difference, when `count` characters are placed. -/
def adapt (delta count : Nat) (isFirst : Bool) : Nat :=
  let delta := if isFirst then delta / 700 else delta / 2
  let (delta, k) := settle (delta + delta / count) 0
  k + 36 * delta / (delta + 38)

/-- The writer's state: the difference since the last character written, the bias, the number of
characters placed, and the digits so far. -/
structure Writer where
  delta : Nat
  bias : Nat
  placed : Nat
  out : List Char

/-- Passes one character of the label while the characters of value `n` are written. -/
def Writer.pass (basic n : Nat) (w : Writer) (c : Char) : Writer :=
  if c.toNat < n then { w with delta := w.delta + 1 }
  else if c.toNat = n then
    { delta := 0
      bias := adapt w.delta (w.placed + 1) (w.placed == basic)
      placed := w.placed + 1
      out := w.out ++ digits w.bias 36 w.delta }
  else w

/-- Writes all characters of value `n`; `next` is the least value not written yet. -/
def Writer.writeAll (label : List Char) (basic : Nat) (s : Writer × Nat) (n : Nat) :
    Writer × Nat :=
  let w := { s.1 with delta := s.1.delta + (n - s.2) * (s.1.placed + 1) }
  let w := label.foldl (Writer.pass basic n) w
  ({ w with delta := w.delta + 1 }, n + 1)

/-- The values outside ASCII in a label, in order, each once. -/
def values (label : List Char) : List Nat :=
  (((label.map Char.toNat).filter (0x80 ≤ ·)).mergeSort).eraseDups

/-- The encoded form of a label. -/
def encode (label : List Char) : List Char :=
  let basic := label.filter fun c => c.toNat < 0x80
  let start : Writer := ⟨0, 72, basic.length, []⟩
  let w := ((values label).foldl (Writer.writeAll label basic.length) (start, 0x80)).1
  basic ++ (if basic.isEmpty then [] else ['-']) ++ w.out

/-- The reader's state: the label so far, the value and position of the last character, the bias,
and the difference that is being read with the weight and step of its next digit. -/
structure Reader where
  label : List Char
  value : Nat
  position : Nat
  bias : Nat
  delta : Nat
  weight : Nat
  step : Nat

/-- The character of a value; `none` for values that are no characters. -/
def char? (n : Nat) : Option Char := if n.isValidChar then some (Char.ofNat n) else none

/-- Puts the character that a difference stands for into the label. -/
def Reader.insert? (r : Reader) (delta : Nat) : Option Reader :=
  let count := r.label.length + 1
  let position := r.position + delta
  let value := r.value + position / count
  let place := position % count
  (char? value).map fun c =>
    { label := r.label.take place ++ c :: r.label.drop place
      value
      position := place + 1
      bias := adapt delta count (r.position == 0)
      delta := 0
      weight := 1
      step := 36 }

/-- Reads one digit. -/
def Reader.next (r : Reader) (c : Char) : Option Reader :=
  (digitValue? c).bind fun d =>
    let delta := r.delta + d * r.weight
    let t := threshold r.step r.bias
    if t ≤ d then
      some { r with delta, weight := r.weight * (36 - t), step := r.step + 36 }
    else r.insert? delta

/-- Whether the reader stands between two differences. -/
def Reader.isSettled (r : Reader) : Bool := r.step == 36

/-- The ASCII characters of an encoded label and the digits after them. A hyphen at the very start
separates nothing. -/
def splitBasic (text : List Char) : List Char × List Char :=
  let tail := (text.reverse.takeWhile (· ≠ '-')).reverse
  let basic := text.take (text.length - tail.length - 1)
  if basic.isEmpty then ([], text) else (basic, tail)

/-- The label that an encoded form stands for. -/
def decode? (text : List Char) : Option (List Char) :=
  let (basic, tail) := splitBasic text
  match tail.foldlM Reader.next ⟨basic, 0x80, 0, 72, 0, 1, 36⟩ with
  | some r => if r.isSettled then some r.label else none
  | none => none

end StorageGateway.Punycode
