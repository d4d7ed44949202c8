import StorageGateway.Bytes

/-!
# UTF-8

Text is written as UTF-8 and read in two ways: strictly, where one malformed sequence refuses the
whole, and leniently, where every maximal malformed sequence becomes a replacement character.
Both readings are views of one machine that reads byte after byte and knows how many continuation
bytes it still owes and in which range the next one has to lie. The narrowed ranges after `E0`,
`ED`, `F0` and `F4` exclude overlong forms, surrogates and values above `10FFFF`.

## Main definitions

* `Utf8.encode`: the bytes of a text.
* `Utf8.pieces`: the characters and malformed sequences that a byte string consists of.
* `Utf8.decode?`, `Utf8.decodeLossy`: the strict and the lenient reading.
-/

namespace StorageGateway.Utf8

/-- The continuation byte that holds the low six bits of `n`. -/
def continuation (n : Nat) : UInt8 := UInt8.ofNat (0x80 + n % 64)

/-- The one to four bytes of a character. -/
def encodeChar (c : Char) : Bytes :=
  let n := c.toNat
  if n < 0x80 then [UInt8.ofNat n]
  else if n < 0x800 then [UInt8.ofNat (0xC0 + n / 64), continuation n]
  else if n < 0x10000 then
    [UInt8.ofNat (0xE0 + n / 4096), continuation (n / 64), continuation n]
  else
    [UInt8.ofNat (0xF0 + n / 262144), continuation (n / 4096), continuation (n / 64),
      continuation n]

/-- The bytes of a sequence of characters. -/
def encode (cs : List Char) : Bytes := cs.flatMap encodeChar

/-- Where a reader stands between two bytes. -/
inductive State where
  /-- Between two characters. -/
  | start
  /-- Inside a character: `owed` continuation bytes are missing, the bits read so far are `value`,
  and the next byte has to lie between `low` and `high`. -/
  | within (owed value low high : Nat)

/-- The first byte of a character: the state after it and what is complete with it. A piece `none`
is a malformed sequence. -/
def first (b : Nat) : State × List (Option Char) :=
  if b < 0x80 then (.start, [some (Char.ofNat b)])
  else if 0xC2 ≤ b ∧ b ≤ 0xDF then (.within 1 (b - 0xC0) 0x80 0xBF, [])
  else if b = 0xE0 then (.within 2 0 0xA0 0xBF, [])
  else if b = 0xED then (.within 2 0xD 0x80 0x9F, [])
  else if 0xE1 ≤ b ∧ b ≤ 0xEF then (.within 2 (b - 0xE0) 0x80 0xBF, [])
  else if b = 0xF0 then (.within 3 0 0x90 0xBF, [])
  else if 0xF1 ≤ b ∧ b ≤ 0xF3 then (.within 3 (b - 0xF0) 0x80 0xBF, [])
  else if b = 0xF4 then (.within 3 4 0x80 0x8F, [])
  else (.start, [none])

/-- One more byte. A byte that cannot continue the current character ends it as malformed and is
read as a first byte. -/
def next : State → Nat → State × List (Option Char)
  | .start, b => first b
  | .within owed value low high, b =>
    if low ≤ b ∧ b ≤ high then
      let value := value * 64 + (b - 0x80)
      if owed ≤ 1 then (.start, [some (Char.ofNat value)])
      else (.within (owed - 1) value 0x80 0xBF, [])
    else
      let r := first b
      (r.1, none :: r.2)

/-- The state after some bytes and the pieces they complete, last one first. -/
def run (bs : Bytes) : State × List (Option Char) :=
  bs.foldl (fun s b => let r := next s.1 b.toNat; (r.1, r.2.reverse ++ s.2)) (.start, [])

/-- The characters of a byte string in order, `none` for each maximal malformed sequence. -/
def pieces (bs : Bytes) : List (Option Char) :=
  match run bs with
  | (.start, out) => out.reverse
  | (.within .., out) => (none :: out).reverse

/-- The strict reading: refused when any sequence is malformed. -/
def decode? (bs : Bytes) : Option (List Char) :=
  let ps := pieces bs
  if ps.all Option.isSome then some (ps.filterMap id) else none

/-- The lenient reading: every malformed sequence becomes U+FFFD. -/
def decodeLossy (bs : Bytes) : List Char := (pieces bs).map fun p => p.getD (Char.ofNat 0xFFFD)

/-- The bytes of a string. -/
def ofString (s : String) : Bytes := encode s.toList

/-- The string that the bytes spell, if they are well-formed. -/
def toString? (bs : Bytes) : Option String := (decode? bs).map String.ofList

/-- The string that the bytes spell under the lenient reading. -/
def toStringLossy (bs : Bytes) : String := String.ofList (decodeLossy bs)

end StorageGateway.Utf8
