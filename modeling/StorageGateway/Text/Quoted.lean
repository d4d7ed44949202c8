import StorageGateway.Unicode.Class

/-!
# Quoted texts

In a message a text stands in quotes. Quotes, backslashes and line breaks are written with a
backslash, and characters that do not print, or that never stand alone, by their numbers.

## Main definitions

* `Quoted.quote`.
-/

namespace StorageGateway.Quoted

/-- The number of a character between braces. -/
def number (c : Char) : List Char :=
  ['\\', 'u', '\x7b'] ++ Nat.toDigits 16 c.toNat ++ ['\x7d']

/-- One character inside the quotes. -/
def quoteChar (c : Char) : List Char :=
  match c with
  | '"' => ['\\', '"']
  | '\\' => ['\\', '\\']
  | '\t' => ['\\', 't']
  | '\n' => ['\\', 'n']
  | '\r' => ['\\', 'r']
  | '\x00' => ['\\', '0']
  | c => if Unicode.isPrinting c && !Unicode.isExtending c then [c] else number c

/-- A text in quotes. -/
def quote (s : String) : String := String.ofList ('"' :: s.toList.flatMap quoteChar ++ ['"'])

end StorageGateway.Quoted
