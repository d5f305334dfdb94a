import Multiples.Text.Basic

/-!
# UTF-8

* `Utf8.encode` gives the bytes of a text, `Utf8.decode?` the text of well-formed bytes; `Utf8.decode?_encode`
  says that they are inverse;
* `Utf8.decode` reads any bytes, with the replacement character for each ill-formed part.  An ill-formed part
  is as long as it could still have become a character, and at least one byte; `Utf8.decode_encode` says that the
  bytes of a text are read as that text.
-/

namespace Multiples

namespace Utf8

/-- The bytes of a text. -/
def encode (s : Text) : List UInt8 := s.flatMap String.utf8EncodeChar

/-- The text of some bytes, if they are well-formed. -/
def decode? (bytes : List UInt8) : Option Text := bytes.toByteArray.utf8Decode?.map Array.toList

/-- The character that some bytes begin with, if they begin with a well-formed one. -/
def head? (bytes : List UInt8) : Option Char := (bytes.take 4).toByteArray.utf8DecodeChar? 0

/-- Stands for a part that could not be read. -/
def replacement : Char := '\ufffd'

/-- The least and the greatest byte that may follow a byte which opens a longer sequence. -/
def followers? (lead : UInt8) : Option (UInt8 × UInt8) :=
  if lead < 0xc2 then none
  else if lead < 0xe0 then some (0x80, 0xbf)
  else if lead = 0xe0 then some (0xa0, 0xbf)
  else if lead = 0xed then some (0x80, 0x9f)
  else if lead < 0xf0 then some (0x80, 0xbf)
  else if lead = 0xf0 then some (0x90, 0xbf)
  else if lead < 0xf4 then some (0x80, 0xbf)
  else if lead = 0xf4 then some (0x80, 0x8f)
  else none

/-- Whether a byte can stand inside a sequence. -/
def continues (b : UInt8) : Bool := decide (0x80 ≤ b) && decide (b ≤ 0xbf)

/-- The length of the ill-formed part that a lead byte opens. -/
def brokenSize (lead : UInt8) (rest : List UInt8) : Nat :=
  match followers? lead, rest with
  | some (low, high), b :: more =>
    if low ≤ b ∧ b ≤ high then
      match more with
      | c :: _ => if continues c then 3 else 2
      | [] => 2
    else 1
  | _, _ => 1

/-- Reads bytes, of which the first few belong to a part already read. -/
def decodeFrom : Nat → List UInt8 → Text
  | _, [] => []
  | skip + 1, _ :: bytes => decodeFrom skip bytes
  | 0, b :: bytes =>
    match head? (b :: bytes) with
    | some c => c :: decodeFrom (c.utf8Size - 1) bytes
    | none => replacement :: decodeFrom (brokenSize b bytes - 1) bytes

/-- The text of any bytes, ill-formed parts replaced. -/
def decode (bytes : List UInt8) : Text := decodeFrom 0 bytes

/-! ## Small lemmas -/

theorem toByteArray_encode (s : Text) : (encode s).toByteArray = s.utf8Encode := rfl

/-- **Well-formed bytes give back their text.** -/
theorem decode?_encode (s : Text) : decode? (encode s) = some s := by
  simp [decode?, toByteArray_encode, List.utf8Decode?_utf8Encode]

theorem encode_cons (c : Char) (s : Text) : encode (c :: s) = String.utf8EncodeChar c ++ encode s := List.flatMap_cons

theorem encode_append (s t : Text) : encode (s ++ t) = encode s ++ encode t := List.flatMap_append

/-- A character of ASCII takes one byte, which is its code point. -/
theorem encode_ascii {c : Char} (h : c.toNat < 128) (s : Text) : encode (c :: s) = UInt8.ofNat c.toNat :: encode s := by
  have hone : String.utf8EncodeChar c = [UInt8.ofNat c.toNat] := by
    rw [String.utf8EncodeChar]
    exact if_pos (Nat.le_of_lt_succ h)
  rw [encode_cons, hone]
  rfl

theorem encode_inj {s t : Text} (h : encode s = encode t) : s = t := by
  have hsame := congrArg decode? h
  rw [decode?_encode, decode?_encode] at hsame
  exact Option.some.inj hsame

/-- Bytes that open with the encoding of a character open with that character. -/
theorem head?_append (c : Char) (bytes : List UInt8) : head? (String.utf8EncodeChar c ++ bytes) = some c := by
  have hlong : (String.utf8EncodeChar c).length ≤ 4 := by
    rw [String.length_utf8EncodeChar]
    exact c.utf8Size_le_four
  rw [head?, List.take_append, List.take_of_length_le hlong, List.toByteArray_append]
  exact ByteArray.utf8DecodeChar?_utf8EncodeChar_append

theorem decodeFrom_append (front bytes : List UInt8) : decodeFrom front.length (front ++ bytes) = decodeFrom 0 bytes := by
  induction front with
  | nil => rfl
  | cons b front ih => exact ih

/-- The replacing reader gives back what is well-formed. -/
theorem decode_encode (s : Text) : decode (encode s) = s := by
  rw [decode]
  induction s with
  | nil => rfl
  | cons c s ih =>
    have hhead := head?_append c (encode s)
    have hlength := String.length_utf8EncodeChar c
    rw [encode_cons]
    cases hc : String.utf8EncodeChar c with
    | nil =>
      rw [hc] at hlength
      exact absurd hlength.symm (Nat.ne_of_gt c.utf8Size_pos)
    | cons b more =>
      rw [hc, List.cons_append] at hhead
      rw [hc, List.length_cons] at hlength
      rw [List.cons_append, decodeFrom, hhead]
      show c :: decodeFrom (c.utf8Size - 1) (more ++ encode s) = c :: s
      rw [← hlength, Nat.add_sub_cancel, decodeFrom_append, ih]

theorem length_encode (s : Text) : (encode s).length = s.byteSize := by
  induction s with
  | nil => rfl
  | cons c s ih =>
    rw [Text.byteSize, ← ih]
    simp [encode]

end Utf8

end Multiples
