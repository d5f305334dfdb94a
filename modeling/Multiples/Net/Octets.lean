import Multiples.Text.Hex
import Multiples.Text.Reader

/-!
# Hosts of four octets

Numeric hosts of version 4, in two ways of writing.

* `Octets.reader` reads the strict form: four decimal numbers between dots, without leading zeros.
* `Octets.ofNumbers?` reads the form in which a host is given by one to four numbers between dots.  A number is
  decimal, or octal after a leading zero, or hexadecimal after a zero and the letter x; every number but the last is
  one octet, and the last one fills the octets that are left.
* `Octets.text` writes the strict form.
-/

namespace Multiples

namespace Octets

/-! ### The strict form -/

/-- One octet: up to three digits, and no leading zero. -/
def octet : Reader Nat := do
  let digits ← Reader.run1 Char.isDigit
  guard (digits.length ≤ 3 ∧ (digits.head? ≠ some '0' ∨ digits.length = 1))
  match Decimal.natBelow? 256 digits with
  | some n => pure n
  | none => failure

/-- Four octets between dots. -/
def reader : Reader (List Nat) := do
  let a ← octet
  Reader.char '.'
  let b ← octet
  Reader.char '.'
  let c ← octet
  Reader.char '.'
  let d ← octet
  pure [a, b, c, d]

/-- Four octets in the strict form. -/
def text (octets : List Nat) : Text := Text.glue ['.'] (octets.map Decimal.ofNat)

/-! ### Numbers of any base -/

/-- Whether a character is an octal digit. -/
def isOctalDigit (c : Char) : Bool := c.isDigit && decide (c < '8')

/-- The value of one or more hexadecimal digits. -/
def hexadecimal? (digits : Text) : Option Nat :=
  if digits ≠ [] ∧ digits.all Hex.isDigit then some (Hex.nat digits) else none

/-- The number that a text stands for. -/
def number? : Text → Option Nat
  | '0' :: 'x' :: digits => hexadecimal? digits
  | '0' :: 'X' :: digits => hexadecimal? digits
  | '0' :: digits => if digits.all isOctalDigit then some (Nat.ofDigitChars 8 digits 0) else none
  | digits => Decimal.nat? digits

/-- The value of numbers of which the last fills the octets that are left. -/
def combined? : Nat → List Nat → Option Nat
  | _, [] => none
  | left, [n] => if n < 256 ^ left then some n else none
  | 0, _ :: _ :: _ => none
  | left + 1, n :: more => if n < 256 then (combined? left more).map (n * 256 ^ left + ·) else none

/-- The four octets of a number. -/
def ofNat (n : Nat) : List Nat := [n / 0x1000000 % 256, n / 0x10000 % 256, n / 0x100 % 256, n % 256]

/-- The octets that numbers between dots stand for. -/
def ofNumbers? (numbers : List Text) : Option (List Nat) := do
  let values ← numbers.mapM number?
  let n ← combined? 4 values
  pure (ofNat n)

end Octets

end Multiples
