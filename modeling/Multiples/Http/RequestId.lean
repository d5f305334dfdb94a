import Multiples.Http.Message

/-!
# Request identifiers

Every request has an identifier, which its response carries too: the first one that the caller sent, byte for byte,
or else a fresh one.
-/

namespace Multiples

namespace RequestId

/-- The header with the identifier. -/
def headerName : Text := "x-request-id".toList

/-- The identifier that a request goes by, given a fresh one. -/
def assigned (fresh : Text) (headers : List Header) : List UInt8 :=
  (Header.first? headerName headers).getD (Utf8.encode fresh)

/-- Digits of bytes, two for each. -/
def hexDigits (bytes : List UInt8) : Text :=
  bytes.flatMap fun b => Nat.toDigits 16 (b.toNat / 16) ++ Nat.toDigits 16 (b.toNat % 16)

/-- An identifier made of random bytes: sixteen of them in hexadecimal digits, in groups, with the marks of its version
and its variant. -/
def ofRandom (bytes : List UInt8) : Text :=
  let marked := bytes.zipIdx.map fun b =>
    if b.2 = 6 then b.1 % 16 + 64 else if b.2 = 8 then b.1 % 64 + 128 else b.1
  let digits := hexDigits marked
  Text.glue ['-'] [digits.take 8, (digits.drop 8).take 4, (digits.drop 12).take 4, (digits.drop 16).take 4,
    (digits.drop 20).take 12]

/-- Whether a byte is a visible character of ASCII, a space or a tab. -/
def isVisible (b : UInt8) : Bool := b = 0x09 || (decide (0x20 ≤ b) && decide (b < 0x7f))

/-- The identifier in some headers as a text, if it is there and visible. -/
def shown (headers : List Header) : Text :=
  match Header.first? headerName headers with
  | some value => if value.all isVisible then value.map fun b => Char.ofNat b.toNat else "unknown".toList
  | none => "unknown".toList

end RequestId

end Multiples
