import StorageGateway.Bytes

/-!
# Writing JSON strings

A text is written between double quotes. Quotes and backslashes are escaped, control characters
have a short escape or `\u` with four lower-case digits, and every other character stands for
itself.

## Main definitions

* `Json.quote`: the literal of a text.
-/

namespace StorageGateway.Json

/-- One character inside a literal. -/
def quoteChar (c : Char) : List Char :=
  if c = '"' then ['\\', '"']
  else if c = '\\' then ['\\', '\\']
  else if c = '\n' then ['\\', 'n']
  else if c = '\r' then ['\\', 'r']
  else if c = '\t' then ['\\', 't']
  else if c = '\x08' then ['\\', 'b']
  else if c = '\x0c' then ['\\', 'f']
  else if c.toNat < 0x20 then
    ['\\', 'u', '0', '0', Ascii.lowerHex (c.toNat / 16), Ascii.lowerHex (c.toNat % 16)]
  else [c]

/-- The literal of a text. -/
def quote (s : String) : String :=
  String.ofList ('"' :: s.toList.flatMap quoteChar ++ ['"'])

end StorageGateway.Json
