import Multiples.Net.Octets

/-!
# Hosts of eight groups

Numeric hosts of version 6: eight groups of up to four hexadecimal digits between colons.  One run of zeros may be left
out as two colons, and the last two groups may be written as four octets.

* `Groups.reader` reads such a host;
* `Groups.text` writes it in its shortest form: the longest run of two or more zeros is left out, the first of several.
-/

namespace Multiples

namespace Groups

/-! ### Reading -/

/-- Four octets as two groups. -/
def ofOctets : List Nat → List Nat
  | a :: b :: rest => (256 * a + b) :: ofOctets rest
  | _ => []

/-- One group: up to four hexadecimal digits. -/
def group : Reader Nat := do
  let digits ← Reader.run1 Hex.isDigit
  guard (digits.length ≤ 4)
  pure (Hex.nat digits)

/-- The colon before every group but the first. -/
def separator (first : Bool) : Reader Unit := if first then pure () else Reader.char ':'

/-- As many groups as there are, up to a limit, and whether they end in octets. -/
def run : Nat → Bool → Reader (List Nat × Bool)
  | 0, _ => pure ([], false)
  | left + 1, first =>
    (do
      guard (left ≥ 1)
      separator first
      let four ← Octets.reader
      pure (ofOctets four, true))
    <|> (do
      separator first
      let g ← group
      let more ← run left false
      pure (g :: more.1, more.2))
    <|> pure ([], false)

/-- The eight groups of a host, the run that is left out filled with zeros. -/
def reader : Reader (List Nat) := do
  let head ← run 8 true
  if head.1.length = 8 then pure head.1
  else
    guard (head.2 = false)
    Reader.mark [':', ':']
    let tail ← run (7 - head.1.length) true
    pure (head.1 ++ List.replicate (8 - head.1.length - tail.1.length) 0 ++ tail.1)

/-! ### Writing -/

/-- How many zeros some groups begin with. -/
def zeros (groups : List Nat) : Nat := (groups.takeWhile (· = 0)).length

/-- The place and the length of the longest run of zeros from a place on, the first of several. -/
def longestRun : Nat → List Nat → Nat × Nat
  | place, [] => (place, 0)
  | place, g :: more =>
    let later := longestRun (place + 1) more
    if later.2 ≤ zeros (g :: more) then (place, zeros (g :: more)) else later

/-- Groups between colons. -/
def plain (groups : List Nat) : Text := Text.glue [':'] (groups.map (Nat.toDigits 16))

/-- Groups in their shortest form. -/
def text (groups : List Nat) : Text :=
  let (place, length) := longestRun 0 groups
  if length < 2 then plain groups
  else plain (groups.take place) ++ [':', ':'] ++ plain (groups.drop (place + length))

end Groups

end Multiples
