import Multiples.Text.Utf8

/-!
# Byte order marks

The text of bytes that may open with a byte order mark.  The mark decides between UTF-8 and the two orders of
UTF-16 and is no part of the text; without one the bytes are UTF-8.  Ill-formed parts are replaced.
-/

namespace Multiples

namespace ByteOrder

/-- The 16-bit units of some bytes; a lone last byte is a unit that cannot be read. -/
def units (unit : UInt8 → UInt8 → Nat) : List UInt8 → List (Option Nat)
  | [] => []
  | [_] => [none]
  | a :: b :: bytes => some (unit a b) :: units unit bytes

/-- Whether a unit is the first of a pair. -/
def isHigh (u : Nat) : Bool := decide (0xd800 ≤ u) && decide (u < 0xdc00)

/-- Whether a unit is the second of a pair. -/
def isLow (u : Nat) : Bool := decide (0xdc00 ≤ u) && decide (u < 0xe000)

/-- The text of 16-bit units, a unit without its partner replaced. -/
def ofUnits : List (Option Nat) → Text
  | [] => []
  | none :: more => Utf8.replacement :: ofUnits more
  | some u :: more =>
    if isHigh u then
      match more with
      | [none] => [Utf8.replacement]
      | some v :: rest =>
        if isLow v then Char.ofNat (0x10000 + (u - 0xd800) * 0x400 + (v - 0xdc00)) :: ofUnits rest
        else Utf8.replacement :: ofUnits (some v :: rest)
      | rest => Utf8.replacement :: ofUnits rest
    else if isLow u then Utf8.replacement :: ofUnits more
    else Char.ofNat u :: ofUnits more

/-- The text of bytes with or without a byte order mark. -/
def decode : List UInt8 → Text
  | 0xef :: 0xbb :: 0xbf :: bytes => Utf8.decode bytes
  | 0xff :: 0xfe :: bytes => ofUnits (units (fun a b => a.toNat + 256 * b.toNat) bytes)
  | 0xfe :: 0xff :: bytes => ofUnits (units (fun a b => 256 * a.toNat + b.toNat) bytes)
  | bytes => Utf8.decode bytes

end ByteOrder

end Multiples
