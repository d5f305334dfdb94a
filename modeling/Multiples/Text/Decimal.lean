import Multiples.Text.Basic

/-!
# Decimal integers

* `Decimal.ofInt` writes an integer: a minus sign if it is negative, then its digits without leading zeros;
* `Decimal.nat?` reads one or more ASCII digits, any number of leading zeros allowed;
* `Decimal.int64?` reads an optional sign and digits, if the value fits 64 bits.
-/

namespace Multiples

namespace Decimal

/-! ## Writing -/

/-- The digits of a natural number. -/
def ofNat (n : Nat) : Text := Nat.toDigits 10 n

/-- The sign and the digits of an integer. -/
def ofInt (i : Int) : Text := if i < 0 then '-' :: ofNat i.natAbs else ofNat i.natAbs

/-- The sign and the digits of a 64-bit integer. -/
def ofInt64 (n : Int64) : Text := ofInt n.toInt

/-! ## Reading -/

/-- The value of one or more ASCII digits. -/
def nat? (s : Text) : Option Nat :=
  if s ≠ [] ∧ s.all Char.isDigit then some (Nat.ofDigitChars 10 s 0) else none

/-- The value of digits with an optional sign before them. -/
def int? : Text → Option Int
  | '-' :: s => (nat? s).map fun n => -(n : Int)
  | '+' :: s => (nat? s).map fun n => (n : Int)
  | s => (nat? s).map fun n => (n : Int)

/-- Whether an integer fits 64 bits. -/
def fitsInt64 (i : Int) : Bool := decide (-0x8000000000000000 ≤ i) && decide (i < 0x8000000000000000)

/-- The 64-bit integer that a text stands for. -/
def int64? (s : Text) : Option Int64 :=
  (int? s).bind fun i => if fitsInt64 i then some (Int64.ofInt i) else none

/-- The natural number below a bound that digits stand for. -/
def natBelow? (bound : Nat) (s : Text) : Option Nat :=
  (nat? s).bind fun n => if n < bound then some n else none

/-! ## Small lemmas -/

theorem ofNat_ne_nil (n : Nat) : ofNat n ≠ [] := Nat.toDigits_ne_nil

theorem isDigit_of_mem_ofNat {n : Nat} {c : Char} (h : c ∈ ofNat n) : c.isDigit = true :=
  Nat.isDigit_of_mem_toDigits (by decide) (by decide) h

/-- **What is written reads back.** -/
theorem nat?_ofNat (n : Nat) : nat? (ofNat n) = some n := by
  have hall : (ofNat n).all Char.isDigit = true :=
    List.all_eq_true.2 fun _ h => isDigit_of_mem_ofNat h
  simp only [nat?, ofNat_ne_nil, hall, ne_eq, not_false_eq_true, and_self, ↓reduceIte]
  simp only [ofNat, Nat.ofDigitChars_ten_toDigits]

end Decimal

end Multiples
