/-!
# Decimal numbers in arguments

A number is given by decimal digits, after a plus sign or, where negative numbers are allowed, a
minus sign. The text is read from left to right, and the first thing that is wrong decides why it
is refused.

## Main definitions

* `Decimal.Refusal`: why a text is no number of the range.
* `Decimal.natural`, `Decimal.integer`: reading a number of 64 bits.
-/

namespace StorageGateway.Decimal

/-- Why a text is no number of the range. -/
inductive Refusal where
  | empty
  | invalidDigit
  | tooLarge
  | tooSmall
  deriving DecidableEq, Repr

/-- The words for a refusal. -/
def Refusal.message : Refusal → String
  | .empty => "cannot parse integer from empty string"
  | .invalidDigit => "invalid digit found in string"
  | .tooLarge => "number too large to fit in target type"
  | .tooSmall => "number too small to fit in target type"

/-- The value of digits up to a limit; `overflow` is the refusal beyond it. -/
def digits (limit : Nat) (overflow : Refusal) (cs : List Char) : Except Refusal Nat :=
  cs.foldlM
    (fun n c =>
      if c.isDigit then
        let n := 10 * n + (c.toNat - 0x30)
        if limit < n then .error overflow else .ok n
      else .error .invalidDigit)
    0

/-- A number without a minus sign. -/
def unsigned (limit : Nat) (cs : List Char) : Except Refusal Nat :=
  match cs with
  | [] => .error .empty
  | ['+'] => .error .invalidDigit
  | '+' :: cs | cs => digits limit .tooLarge cs

/-- A number of 64 bits without a sign bit. -/
def natural (s : String) : Except Refusal Nat := unsigned 18446744073709551615 s.toList

/-- A number of 64 bits with a sign bit. -/
def integer (s : String) : Except Refusal Int :=
  match s.toList with
  | ['-'] => .error .invalidDigit
  | '-' :: cs => (digits 9223372036854775808 .tooSmall cs).map fun n => -(n : Int)
  | cs => (unsigned 9223372036854775807 cs).map fun n => (n : Int)

end StorageGateway.Decimal
