import StorageGateway.Text.Utf8

/-!
# JSON tokens

A JSON text is cut into tokens first. A string literal is kept as the list of its parts, bytes and
`\u` escapes, because whether it spells a text is only asked of literals that are used: a lone
surrogate or a malformed sequence in a part of the value that nobody reads is no error. A number
is kept as its literal for the same reason.

## Main definitions

* `Json.Part`, `Json.Literal`: string literals; `Json.Literal.text?` is the text of one.
* `Json.Token`, `Json.tokens?`: the tokens of a byte string.
* `Json.isNumber`: the grammar of number literals.
* `Json.Literal.integer?`: the value of a number literal without fraction and exponent.
-/

namespace StorageGateway.Json

/-- A part of a string literal. -/
inductive Part where
  /-- A byte, written as it is or by a two-character escape. -/
  | byte (b : UInt8)
  /-- A UTF-16 unit, written as `\u` and four hexadecimal digits. -/
  | unit (n : Nat)
  deriving DecidableEq, Repr

/-- The parts of a string literal in order. -/
abbrev Literal := List Part

/-- The UTF-8 bytes of a literal, last one first; `none` when a surrogate stands alone. -/
def Literal.bytesFrom (seen : Bytes) : Literal → Option Bytes
  | [] => some seen.reverse
  | .byte b :: rest => bytesFrom (b :: seen) rest
  | .unit n :: rest =>
    if 0xDC00 ≤ n ∧ n ≤ 0xDFFF then none
    else if 0xD800 ≤ n ∧ n ≤ 0xDBFF then
      match rest with
      | .unit m :: rest =>
        if 0xDC00 ≤ m ∧ m ≤ 0xDFFF then
          let c := Char.ofNat (0x10000 + (n - 0xD800) * 0x400 + (m - 0xDC00))
          bytesFrom ((Utf8.encodeChar c).reverse ++ seen) rest
        else none
      | _ => none
    else bytesFrom ((Utf8.encodeChar (Char.ofNat n)).reverse ++ seen) rest

/-- The text that a literal spells. -/
def Literal.text? (l : Literal) : Option String := (l.bytesFrom []).bind Utf8.toString?

/-- A token of a JSON text. -/
inductive Token where
  | openArray
  | closeArray
  | openObject
  | closeObject
  | comma
  | colon
  | null
  | true
  | false
  | number (literal : Bytes)
  | string (literal : Literal)
  deriving DecidableEq, Repr

/-- The digits at the start of a byte string and what follows them. -/
def digits (bs : Bytes) : Bytes × Bytes := (bs.takeWhile Ascii.isDigit, bs.dropWhile Ascii.isDigit)

/-- An exponent without its mark: an optional sign and at least one digit. -/
def isExponent (bs : Bytes) : Bool :=
  match bs with
  | 0x2B :: rest => !rest.isEmpty && rest.all Ascii.isDigit
  | 0x2D :: rest => !rest.isEmpty && rest.all Ascii.isDigit
  | rest => !rest.isEmpty && rest.all Ascii.isDigit

/-- What may follow the integer part of a number: a fraction, an exponent, both or neither. -/
def isFraction (bs : Bytes) : Bool :=
  match bs with
  | [] => true
  | b :: rest =>
    if b = 0x2E then
      let d := digits rest
      !d.1.isEmpty &&
        (match d.2 with
          | [] => true
          | e :: exponent => (e == 0x65 || e == 0x45) && isExponent exponent)
    else (b == 0x65 || b == 0x45) && isExponent rest

/-- An integer part without a leading zero, then a fraction and an exponent. -/
def isUnsignedNumber (bs : Bytes) : Bool :=
  let d := digits bs
  !d.1.isEmpty && (d.1.length == 1 || d.1.head? != some 0x30) && isFraction d.2

/-- The number literals of JSON. -/
def isNumber (bs : Bytes) : Bool :=
  match bs with
  | 0x2D :: rest => isUnsignedNumber rest
  | rest => isUnsignedNumber rest

/-- The bytes that a number literal consists of. -/
def isNumberByte (b : UInt8) : Bool :=
  Ascii.isDigit b || b == 0x2B || b == 0x2D || b == 0x2E || b == 0x45 || b == 0x65

/-- The value of decimal digits. -/
def ofDigits (bs : Bytes) : Nat := bs.foldl (fun n b => 10 * n + (b.toNat - 0x30)) 0

/-- The value of an integer literal. A fraction, an exponent or a negative zero is no integer. -/
def integer? (literal : Bytes) : Option Int :=
  match literal with
  | 0x2D :: ds =>
    if ds.all Ascii.isDigit && ofDigits ds != 0 then some (-(ofDigits ds : Int)) else none
  | ds => if ds.all Ascii.isDigit then some (ofDigits ds) else none

/-- The byte that a two-character escape stands for. -/
def escaped? (b : UInt8) : Option UInt8 :=
  if b = 0x22 ∨ b = 0x5C ∨ b = 0x2F then some b
  else if b = 0x62 then some 0x08
  else if b = 0x66 then some 0x0C
  else if b = 0x6E then some 0x0A
  else if b = 0x72 then some 0x0D
  else if b = 0x74 then some 0x09
  else none

/-- Where the reader of tokens stands between two bytes. The parts of a literal are kept last one
first. -/
inductive Lexer where
  /-- Between two tokens. -/
  | between
  /-- Inside a word such as `true`, of which the bytes `rest` are missing. -/
  | word (token : Token) (rest : Bytes)
  /-- Inside a number. -/
  | number (seen : Bytes)
  /-- Inside a string. -/
  | string (seen : Literal)
  /-- After a backslash. -/
  | escape (seen : Literal)
  /-- Inside a `\u` escape: `missing` digits are to come, `value` is what the others spell. -/
  | unicode (seen : Literal) (missing value : Nat)

/-- The first byte of a token, or white space between tokens. -/
def Lexer.begin (b : UInt8) : Option (Lexer × List Token) :=
  if b = 0x20 ∨ b = 0x09 ∨ b = 0x0A ∨ b = 0x0D then some (.between, [])
  else if b = 0x5B then some (.between, [.openArray])
  else if b = 0x5D then some (.between, [.closeArray])
  else if b = 0x7B then some (.between, [.openObject])
  else if b = 0x7D then some (.between, [.closeObject])
  else if b = 0x2C then some (.between, [.comma])
  else if b = 0x3A then some (.between, [.colon])
  else if b = 0x22 then some (.string [], [])
  else if b = 0x6E then some (.word .null (Bytes.ofAscii "ull"), [])
  else if b = 0x74 then some (.word .true (Bytes.ofAscii "rue"), [])
  else if b = 0x66 then some (.word .false (Bytes.ofAscii "alse"), [])
  else if b = 0x2D ∨ Ascii.isDigit b then some (.number [b], [])
  else none

/-- One more byte: the state after it and the tokens that it completes, in order. -/
def Lexer.next : Lexer → UInt8 → Option (Lexer × List Token)
  | .between, b => begin b
  | .word token (c :: rest), b =>
    if b = c then
      if rest.isEmpty then some (.between, [token]) else some (.word token rest, [])
    else none
  | .word _ [], _ => none
  | .number seen, b =>
    if isNumberByte b then some (.number (b :: seen), [])
    else if isNumber seen.reverse then
      (begin b).map fun r => (r.1, .number seen.reverse :: r.2)
    else none
  | .string seen, b =>
    if b = 0x22 then some (.between, [.string seen.reverse])
    else if b = 0x5C then some (.escape seen, [])
    else if b < 0x20 then none
    else some (.string (.byte b :: seen), [])
  | .escape seen, b =>
    if b = 0x75 then some (.unicode seen 4 0, [])
    else (escaped? b).map fun c => (.string (.byte c :: seen), [])
  | .unicode seen missing value, b =>
    (Ascii.hexValue? b).map fun d =>
      let value := 16 * value + d
      if missing ≤ 1 then (.string (.unit value :: seen), [])
      else (.unicode seen (missing - 1) value, [])

/-- The tokens that end with the text. -/
def Lexer.finish : Lexer → Option (List Token)
  | .between => some []
  | .number seen => if isNumber seen.reverse then some [.number seen.reverse] else none
  | _ => none

/-- Reads on from a state; `seen` holds the tokens so far, last one first. -/
def tokensFrom (seen : List Token) (s : Lexer) : Bytes → Option (List Token)
  | [] => s.finish.map fun ts => seen.reverse ++ ts
  | b :: rest =>
    match s.next b with
    | none => none
    | some (s, ts) => tokensFrom (ts.reverse ++ seen) s rest

/-- The tokens of a JSON text, `none` when it holds anything else. -/
def tokens? (bs : Bytes) : Option (List Token) := tokensFrom [] .between bs

end StorageGateway.Json
