import Multiples.Text.Hex
import Multiples.Toml.Space

/-!
# Numbers of a TOML document

Integers are decimal, with a sign and without leading zeros, or hexadecimal, octal or binary without a sign, and
fit 64 bits.  A decimal fraction has a fraction or an exponent; one that is too large for a 64-bit floating-point
number is no number, unless it is negative.  Single underscores may stand between digits.
-/

namespace Multiples

namespace Toml

/-! ### Digits -/

/-- One digit, perhaps after an underscore. -/
def nextDigit (kind : Char → Bool) : Reader Char := do
  let _ ← Reader.maybe (Reader.char '_')
  Reader.satisfying kind

/-- One or more digits of a kind, with single underscores between them. -/
def digits (kind : Char → Bool) : Reader Text := do
  let first ← Reader.satisfying kind
  let more ← Reader.many (nextDigit kind)
  pure (first :: more)

/-- A sign, and whether it is a minus. -/
def sign : Reader Bool :=
  (do Reader.char '-'; pure true) <|> (do Reader.char '+'; pure false) <|> pure false

/-- Decimal digits, of which the first is zero only if it is the only one. -/
def wholeDigits : Reader Text :=
  (do
    let first ← Reader.satisfying fun c => c.isDigit && c != '0'
    let more ← Reader.many (nextDigit Char.isDigit)
    pure (first :: more))
  <|> (do Reader.char '0'; pure ['0'])

/-! ### Integers -/

/-- An integer that fits 64 bits. -/
def fitting (i : Int) : Reader Int := do
  guard (Decimal.fitsInt64 i)
  pure i

/-- The value of digits in some base. -/
def inBase (base : Nat) (ds : Text) : Int := (ds.foldl (fun n c => base * n + Hex.value c) 0 : Nat)

/-- An integer in another base, after the mark of the base. -/
def marked (mark : Char) (base : Nat) (kind : Char → Bool) : Reader Int := do
  Reader.mark ['0', mark]
  let ds ← digits kind
  fitting (inBase base ds)

/-- A decimal integer. -/
def decimalInteger : Reader Int := do
  let negative ← sign
  let ds ← wholeDigits
  fitting (if negative then -(inBase 10 ds) else inBase 10 ds)

/-- An integer in any base. -/
def integer : Reader Int :=
  marked 'x' 16 Hex.isDigit
  <|> marked 'o' 8 (fun c => decide ('0' ≤ c) && decide (c ≤ '7'))
  <|> marked 'b' 2 (fun c => c = '0' || c = '1')
  <|> decimalInteger

/-! ### Fractions -/

/-- Digits after a point. -/
def fraction : Reader Text := do
  Reader.char '.'
  digits Char.isDigit

/-- An exponent. -/
def exponent : Reader Int := do
  Reader.char 'e' <|> Reader.char 'E'
  let negative ← sign
  let ds ← digits Char.isDigit
  pure (if negative then -(inBase 10 ds) else inBase 10 ds)

/-- The least number that rounds to infinity: the middle between the greatest 64-bit floating-point number and the
next power of two. -/
def overflowBound : Nat := Nat.pow 2 1024 - Nat.pow 2 970

/-- Whether digits times a power of ten round to infinity.  Where the number of digits before the point decides,
the power is not computed. -/
def overflows (ds : Text) (power : Int) : Bool :=
  let n := (inBase 10 ds).toNat
  let size : Int := (Nat.toDigits 10 n).length + power
  if n = 0 ∨ size < 300 then false
  else if 400 < size then true
  else if 0 ≤ power then decide (overflowBound ≤ n * Nat.pow 10 power.toNat)
  else decide (overflowBound * Nat.pow 10 (-power).toNat ≤ n)

/-- A decimal fraction. -/
def decimalFraction : Reader Unit := do
  let negative ← sign
  let whole ← wholeDigits
  let after ← Reader.maybe fraction
  let power ← Reader.maybe exponent
  guard (after.isSome ∨ power.isSome)
  let fractionDigits := after.getD []
  guard (negative ∨ ¬ overflows (whole ++ fractionDigits) (power.getD 0 - fractionDigits.length))

/-- Infinity or no number. -/
def specialNumber : Reader Unit := do
  let _ ← sign
  Reader.mark ['i', 'n', 'f'] <|> Reader.mark ['n', 'a', 'n']

/-- A number that is not an integer. -/
def float : Reader Unit := decimalFraction <|> specialNumber

end Toml

end Multiples
