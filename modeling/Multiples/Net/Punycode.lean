import Multiples.Text.Basic

/-!
# Punycode

Labels of any characters in letters, digits and hyphens.  The ASCII characters come first; then, for every other
character in ascending order, how far it is from the one before, where a step is one place in the label or, after its
end, one code point further.  A distance is written in base 36, least digit first, and ends at the first digit below a
threshold; the thresholds follow the distances so far.

* `Punycode.digits` writes a distance;
* `Punycode.encode` writes a label, and `Punycode.decode?` reads one.
-/

namespace Multiples

namespace Punycode

/-! ### Distances -/

/-- A digit of base 36: the letters, then the decimal digits. -/
def digit (n : Nat) : Char := if n < 26 then Char.ofNat (97 + n) else Char.ofNat (22 + n)

/-- The threshold at a place of a distance. -/
def threshold (bias place : Nat) : Nat := max 1 (min 26 (place - bias))

/-- The digits of a distance from a place on. -/
def digits (bias place n : Nat) : Text :=
  let t := threshold bias place
  if n < t then [digit n]
  else digit (t + (n - t) % (36 - t)) :: digits bias (place + 36) ((n - t) / (36 - t))
termination_by n
decreasing_by
  have low : 1 ≤ threshold bias place := Nat.le_max_left 1 _
  exact Nat.lt_of_le_of_lt (Nat.div_le_self _ _) (by omega)

/-- Divides until the thresholds can follow, counting the places. -/
def settle (delta place : Nat) : Nat × Nat :=
  if 455 < delta then settle (delta / 35) (place + 36) else (delta, place)
termination_by delta
decreasing_by exact Nat.div_lt_self (by omega) (by omega)

/-- The bias after a distance, when so many characters are written; the first distance counts less. -/
def adapt (delta written : Nat) (first : Bool) : Nat :=
  let part := if first then delta / 700 else delta / 2
  let settled := settle (part + part / written) 0
  settled.2 + 36 * settled.1 / (settled.1 + 38)

/-! ### Labels -/

/-- Whether a character is ASCII. -/
def isPlain (c : Char) : Bool := decide (c.toNat < 0x80)

/-- What has been written of a label: the distances, the steps since the last one, the bias, and how many characters are
written. -/
structure State where
  distances : Text := []
  delta : Nat := 0
  bias : Nat := 72
  written : Nat

/-- Goes on to the next place of a label while writing the code point `n`, in a label with `plain` ASCII characters. -/
def step (plain n : Nat) (s : State) (c : Char) : State :=
  if c.toNat < n then { s with delta := s.delta + 1 }
  else if c.toNat = n then
    { distances := s.distances ++ digits s.bias 36 s.delta
      delta := 0
      bias := adapt s.delta (s.written + 1) (s.written == plain)
      written := s.written + 1 }
  else s

/-- Goes through a label once for each code point, after those below `next`. -/
def pass (label : Text) (plain : Nat) : List Nat → Nat → State → State
  | [], _, s => s
  | n :: more, next, s =>
    let reached := { s with delta := s.delta + (n - next) * (s.written + 1) }
    let written := label.foldl (step plain n) reached
    pass label plain more (n + 1) { written with delta := written.delta + 1 }

/-- A label in letters, digits and hyphens. -/
def encode (label : Text) : Text :=
  let plain := label.filter isPlain
  let others := ((label.filter fun c => !isPlain c).map Char.toNat).mergeSort.eraseDups
  let distances := (pass label plain.length others 0x80 { written := plain.length }).distances
  (if plain = [] then [] else plain ++ ['-']) ++ distances

/-! ### Reading -/

/-- The value of a digit, letter case aside. -/
def value? (c : Char) : Option Nat :=
  if c.isLower then some (c.toNat - 97)
  else if c.isUpper then some (c.toNat - 65)
  else if c.isDigit then some (c.toNat - 22)
  else none

/-- The distance that a text begins with, and what follows it; `n` is the value of the digits so far, and `weight` that of
the next one. -/
def distance? (bias : Nat) : Nat → Nat → Nat → Text → Option (Nat × Text)
  | _, _, _, [] => none
  | place, weight, n, c :: s =>
    match value? c with
    | none => none
    | some d =>
      let t := threshold bias place
      if d < t then some (n + d * weight, s) else distance? bias (place + 36) (weight * (36 - t)) (n + d * weight) s

/-- Puts one character after another into a label, at most so many: the next one is at least `next`, and if it is that,
it stands at `place` or later. -/
def fill : Nat → Nat → Nat → Nat → Text → Text → Option Text
  | _, _, _, _, label, [] => some label
  | 0, _, _, _, _, _ :: _ => none
  | left + 1, next, place, bias, label, c :: s => do
    let (distance, rest) ← distance? bias 36 1 0 (c :: s)
    let written := label.length + 1
    let n := next + (place + distance) / written
    let found := (place + distance) % written
    guard n.isValidChar
    fill left n (found + 1) (adapt distance written (place == 0)) (label.insertIdx found (Char.ofNat n)) rest

/-- The label that a text in letters, digits and hyphens stands for. -/
def decode? (s : Text) : Option Text :=
  match s.reverse.dropWhile (· != '-') with
  | _ :: plain => fill s.length 0x80 0 72 plain.reverse (s.reverse.takeWhile (· != '-')).reverse
  | [] => fill s.length 0x80 0 72 [] s

end Punycode

end Multiples
