import Multiples.Text.Hex
import Multiples.Text.Utf8

/-!
# Percent-encoding

A byte can be written as a percent sign and two hexadecimal digits.

* `Percent.encode` writes the characters of a kind so, and leaves all others as they are;
* `Percent.decode` gives the bytes that a text stands for.  A percent sign without two digits after it stands for
  itself, so every text can be decoded.
-/

namespace Multiples

namespace Percent

/-! ### Writing -/

/-- A hexadecimal digit in capital letters. -/
def capitalDigit (n : Nat) : Char := if n < 10 then Char.ofNat (48 + n) else Char.ofNat (55 + n)

/-- A byte after a percent sign. -/
def byte (b : UInt8) : Text := ['%', capitalDigit (b.toNat / 16), capitalDigit (b.toNat % 16)]

/-- A text in which the characters of a kind are percent-encoded. -/
def encode (kind : Char → Bool) (s : Text) : Text :=
  s.flatMap fun c => if kind c then (Utf8.encode [c]).flatMap byte else [c]

/-! ### Reading -/

/-- The bytes that a text stands for, after some characters that belong to a byte already read. -/
def decodeFrom : Nat → Text → List UInt8
  | _, [] => []
  | skip + 1, _ :: s => decodeFrom skip s
  | 0, '%' :: a :: b :: s =>
    if Hex.isDigit a ∧ Hex.isDigit b then UInt8.ofNat (Hex.nat [a, b]) :: decodeFrom 2 (a :: b :: s)
    else Utf8.encode ['%'] ++ decodeFrom 0 (a :: b :: s)
  | 0, c :: s => Utf8.encode [c] ++ decodeFrom 0 s

/-- The bytes that a text stands for. -/
def decode (s : Text) : List UInt8 := decodeFrom 0 s

/-! ### Sets of characters -/

/-- Whether a character is a control character or outside ASCII: those are encoded everywhere. -/
def isUnwritable (c : Char) : Bool := decide (c.toNat < 0x20) || decide (0x7e < c.toNat)

end Percent

end Multiples
